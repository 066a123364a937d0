import OAuthClient.Proofs.Binding.Shapes
import OAuthClient.Proofs.Text.Blank
import OAuthClient.Proofs.Text.Lowercase

/-!
# Writing bound registrations

What has been bound can be written as properties again: every field that a registration has under
its name, scopes as a list. Reading that gives the registration back, because what is read of a
value is in a form that reading leaves as it is. Only a text that refers to a variable that is set
would be read as something else, and one that refers to an inherited member would not be read.

## Main statements

* `Binding.choiceName_choiceName`, `Binding.scopesOf_scopesOf`: forms that are left as they are.
* `Binding.written`: a registration as a map of properties.
* `Binding.Literal`: no text of a registration refers to a variable that is set.
* `Binding.boundTo_written_iff`: when a registration is bound to what it is written as.
* `Binding.registrations_written_iff`: when registrations are bound to the tree that they are
  written as.
-/

namespace OAuthClient

/-! ### Forms that reading leaves as they are -/

namespace Text

variable {cs : List Char}

/-- The lower-case form of trimmed characters is trimmed. -/
theorem Trimmed.lowerAfter (h : Trimmed cs) (before : List Char) :
    Trimmed (lowerAfter before cs) := by
  refine ⟨fun d hd => ?_, fun d hd => ?_⟩
  · obtain ⟨c, hc, hlower⟩ := head?_lowerAfter hd
    refine Bool.eq_false_iff.mpr fun hblank => ?_
    obtain rfl := hlower.eq_of_isBlank hblank
    exact absurd hblank (Bool.eq_false_iff.mp (h.head c hc))
  · obtain ⟨c, hc, hlower⟩ := getLast?_lowerAfter hd
    refine Bool.eq_false_iff.mpr fun hblank => ?_
    obtain rfl := hlower.eq_of_isBlank hblank
    exact absurd hblank (Bool.eq_false_iff.mp (h.last c hc))

/-- Trimmed characters stay so if none becomes a blank. -/
theorem Trimmed.map (h : Trimmed cs) {f : Char → Char}
    (hf : ∀ c, isBlank c = false → isBlank (f c) = false) : Trimmed (cs.map f) := by
  refine ⟨fun d hd => ?_, fun d hd => ?_⟩
  · rw [List.head?_map] at hd
    obtain ⟨c, hc, rfl⟩ := Option.map_eq_some_iff.mp hd
    exact hf c (h.head c hc)
  · rw [List.getLast?_map] at hd
    obtain ⟨c, hc, rfl⟩ := Option.map_eq_some_iff.mp hd
    exact hf c (h.last c hc)

end Text

namespace Binding

theorem choiceName_eq (s : String) : choiceName s =
    String.ofList ((Text.lowerAfter [] (Text.trimChars s.toList)).map underscored) := by
  rw [choiceName, Text.lowercase, Text.trim, String.toList_ofList, String.toList_ofList]
  rfl

theorem underscored_underscored (c : Char) : underscored (underscored c) = underscored c := by
  unfold underscored
  split <;> simp_all

theorem isBlank_underscored {c : Char} (h : Text.isBlank c = false) :
    Text.isBlank (underscored c) = false := by
  unfold underscored
  split
  · decide
  · exact h

theorem settled_underscored {c : Char} (h : Text.Settled c) : Text.Settled (underscored c) := by
  unfold underscored
  split
  · unfold Text.Settled
    decide +kernel
  · exact h

/-- The name of a choice is its own. -/
theorem choiceName_choiceName (s : String) : choiceName (choiceName s) = choiceName s := by
  rw [choiceName_eq s]
  -- Neither lower case nor underscores bring blanks to the ends, nor underscores capitals back.
  have htrimmed : Text.Trimmed ((Text.lowerAfter [] (Text.trimChars s.toList)).map underscored) :=
    ((Text.trimmed_trimChars s.toList).lowerAfter []).map fun _ => isBlank_underscored
  have hsettled : ∀ c ∈ (Text.lowerAfter [] (Text.trimChars s.toList)).map underscored,
      Text.Settled c := by
    intro c hc
    obtain ⟨d, hd, rfl⟩ := List.mem_map.mp hc
    obtain ⟨_, -, hlower⟩ := Text.exists_of_mem_lowerAfter hd
    exact settled_underscored hlower.settled
  rw [choiceName_eq, String.toList_ofList, Text.trimChars_of_trimmed htrimmed,
    Text.lowerAfter_of_settled hsettled, List.map_map]
  exact congrArg String.ofList (List.map_congr_left fun c _ => underscored_underscored c)

theorem trim_of_mem_scopesOf {texts : List String} {scope : String} (h : scope ∈ scopesOf texts) :
    Text.trim scope = scope ∧ scope.isEmpty = false := by
  obtain ⟨hmem, hne⟩ := List.mem_filter.mp h
  obtain ⟨text, -, rfl⟩ := List.mem_map.mp hmem
  exact ⟨Text.trim_trim text, by simpa using hne⟩

theorem scopesOf_scopesOf (texts : List String) : scopesOf (scopesOf texts) = scopesOf texts := by
  have htrim : (scopesOf texts).map Text.trim = scopesOf texts :=
    (List.map_congr_left fun _ h => (trim_of_mem_scopesOf h).1).trans (List.map_id _)
  rw [scopesOf, htrim]
  exact List.filter_eq_self.mpr fun scope h => by rw [(trim_of_mem_scopesOf h).2]; rfl

/-! ### Writing -/

/-- The property that a field of a registration is written as; an absent one is not written. -/
def Field.property? : Field → RegistrationProperties → Option (String × Value)
  | text name value, p | choice name value, p => (value p).map fun s => (name, .text s)
  | scope name value, p => (value p).map fun scopes => (name, .list (scopes.map .text))

/-- A registration as a map of properties. -/
def written (p : RegistrationProperties) : Value := .map (schema.filterMap (·.property? p))

/-- The texts that a registration has for a field. -/
def Field.texts : Field → RegistrationProperties → List String
  | text _ value, p | choice _ value, p => (value p).toList
  | scope _ value, p => (value p).getD []

/-- All texts that a registration has. -/
def textsOf (p : RegistrationProperties) : List String := schema.flatMap (·.texts p)

/-- No text of a registration refers to a variable that is set. -/
def Literal (env : Environment) (p : RegistrationProperties) : Prop :=
  ∀ s ∈ textsOf p, ¬ env.RefersToVariable s

/-! ### Reading what was written -/

/-- A field name stands for its field. -/
theorem camelCase_of_mem_schema {field : Field} (h : field ∈ schema) :
    camelCase field.name = field.name := by
  have hall : ∀ name ∈ schema.map Field.name, camelCase name = name := by decide +kernel
  exact hall field.name (List.mem_map_of_mem h)

theorem Field.of_property? {field : Field} {p : RegistrationProperties} {e : String × Value}
    (h : field.property? p = some e) : e.1 = field.name ∧ e.2 ≠ .null := by
  cases field with
  | text name value | choice name value | scope name value =>
    obtain ⟨_, -, rfl⟩ := Option.map_eq_some_iff.mp h
    exact ⟨rfl, nofun⟩

variable {env : Environment} {p : RegistrationProperties}

/-- The value given to a field is the one that the field was written with. -/
theorem given_written {field : Field} (hfield : field ∈ schema) :
    given (schema.filterMap (·.property? p)) field.name = (field.property? p).map (·.2) := by
  -- Names are distinct and stand for themselves, so only one field is written for the name.
  have hname : ∀ {other : Field} {e : String × Value}, other ∈ schema → other.property? p = some e →
      camelCase e.1 = field.name → other = field := by
    intro other e hother he heq
    rw [(Field.of_property? he).1, camelCase_of_mem_schema hother] at heq
    exact List.inj_on_of_nodup_map Field.nodup_names hother hfield heq
  unfold given
  rw [← List.filterMap_reverse]
  refine congrArg (Option.map _) ?_
  rw [List.find?_filterMap]
  cases hfound : schema.reverse.find? _ with
  | none =>
    cases he : field.property? p with
    | none => rfl
    | some e =>
      obtain ⟨hename, hnull⟩ := Field.of_property? he
      have hnot := List.find?_eq_none.mp hfound field (List.mem_reverse.mpr hfield)
      simp [he, hnull, hename, camelCase_of_mem_schema hfield] at hnot
  | some other =>
    have hother := List.mem_reverse.mp (List.mem_of_find?_eq_some hfound)
    obtain ⟨hfor, -⟩ := List.find?_eq_some_iff_append.mp hfound
    obtain ⟨e, he, hfor⟩ := (Option.any_eq_true ..).mp hfor
    obtain rfl := hname hother he (of_decide_eq_true hfor).2
    rfl

theorem IsScope.exists_scopesOf {v : Value} {scopes : List String} (h : IsScope v scopes) :
    ∃ texts, scopes = scopesOf texts := by
  cases h with
  | text s => exact ⟨_, (scopesOf_eq _).symm⟩
  | list h => exact ⟨_, (scopesOf_eq _).symm⟩

theorem forall₂_isText (texts : List String) :
    List.Forall₂ IsText (texts.map .text) texts := by
  rw [List.forall₂_map_left_iff]
  exact List.forall₂_same.mpr fun s _ => .text s

/-- A field holds what it was written with, if its texts stand for themselves. -/
theorem Field.holds_property? {field : Field} {v : Option Value} (h : field.Holds v p)
    (hself : ∀ s ∈ field.texts p, env.expand (.text s) = .text s) :
    field.Holds ((field.property? p).map fun e => env.expandItems e.2) p := by
  cases field with
  | text name value =>
    simp only [Holds, property?, texts] at hself ⊢
    cases hvalue : value p with
    | none => exact .none
    | some s =>
      rw [hvalue] at hself
      simp only [Option.map_some, Environment.expandItems, hself s (Option.mem_toList.mpr rfl)]
      exact .some (.text s)
  | choice name value =>
    simp only [Holds, property?, texts] at h hself ⊢
    cases hvalue : value p with
    | none => exact .none
    | some s =>
      rw [hvalue] at h hself
      obtain ⟨hchoice⟩ := h
      obtain ⟨t, -, rfl⟩ := isChoice_iff.mp hchoice
      simp only [Option.map_some, Environment.expandItems,
        hself (choiceName t) (Option.mem_toList.mpr rfl)]
      exact .some (isChoice_iff.mpr ⟨choiceName t, rfl, (choiceName_choiceName t).symm⟩)
  | scope name value =>
    simp only [Holds, property?, texts] at h hself ⊢
    cases hvalue : value p with
    | none => exact .none
    | some scopes =>
      rw [hvalue] at h hself
      have hitems : (scopes.map Value.text).map env.expand = scopes.map .text := by
        rw [List.map_map]
        exact List.map_congr_left fun s hs => hself s hs
      obtain ⟨h⟩ := h
      obtain ⟨texts, rfl⟩ := h.exists_scopesOf
      simp only [Option.map_some, Environment.expandItems, hitems]
      exact .some (isScope_list_iff.mpr ⟨_, forall₂_isText _, (scopesOf_scopesOf texts).symm⟩)

/-- A field that holds what it was written with has no text that refers to an inherited member. -/
theorem Field.not_refersToInherited {field : Field}
    (h : field.Holds ((field.property? p).map fun e => env.expandItems e.2) p) :
    ∀ s ∈ field.texts p, ¬ env.RefersToInherited s := by
  intro s hs
  cases field with
  | text name value | choice name value =>
    rw [property?, Option.mem_toList.mp hs] at h
    exact Field.not_refersToInherited_of_text (Field.accepts_of_holds h)
  | scope name value =>
    obtain ⟨scopes, hvalue, hmem⟩ : ∃ scopes, value p = some scopes ∧ s ∈ scopes := by
      cases hvalue : value p with
      | none => simp [texts, hvalue] at hs
      | some scopes => exact ⟨scopes, rfl, by simpa [texts, hvalue] using hs⟩
    rw [property?, hvalue] at h
    exact Field.not_refersToInherited_of_list (Field.accepts_of_holds h) s hmem

/-- A registration that a value is bound to is what it is written as, unless one of its texts refers
to an inherited member. -/
theorem boundTo_written_iff {v : Value} (h : BoundTo env v p) (hliteral : Literal env p) :
    BoundTo env (written p) p ↔ ∀ s ∈ textsOf p, ¬ env.RefersToInherited s := by
  obtain ⟨properties, -, hholds⟩ := h
  have hused : ∀ field ∈ schema, used env (schema.filterMap (·.property? p)) field.name =
      (field.property? p).map fun e => env.expandItems e.2 := by
    intro field hfield
    rw [used, given_written hfield, Option.map_map]
    rfl
  constructor
  · rintro ⟨_, hproperties, hwritten⟩ s hs
    cases hproperties
    obtain ⟨field, hfield, hs⟩ := List.mem_flatMap.mp hs
    exact Field.not_refersToInherited (hused field hfield ▸ hwritten field hfield) s hs
  · intro hno
    refine ⟨_, rfl, fun field hfield => ?_⟩
    rw [hused field hfield]
    refine Field.holds_property? (hholds field hfield) fun s hs => ?_
    have hmem : s ∈ textsOf p := List.mem_flatMap.mpr ⟨field, hfield, hs⟩
    exact Environment.expand_text_of_refersToNone (hliteral s hmem) (hno s hmem)

/-! ### Trees -/

/-- A value below keys, with nothing beside it. -/
def nested (v : Value) : List String → Value
  | [] => v
  | key :: keys => .map [(key, nested v keys)]

theorem at?_nested (v : Value) (keys : List String) : (nested v keys).at? keys = some v := by
  induction keys with
  | nil => rfl
  | cons key keys ih =>
    rw [nested, Value.at?, show (Value.map [(key, nested v keys)]).get? key = some (nested v keys) by
      simp [Value.get?, Value.entries?, Entries.get?]]
    exact ih

/-- A source that has a value at a path and nothing beside it. -/
def sourceOf (path : String) (v : Value) : PropertySource :=
  ⟨((nested v (Text.segments '.' path)).entries?).getD []⟩

theorem get?_sourceOf (path : String) (v : Value) : (sourceOf path v).get? path = some v := by
  obtain ⟨key, keys, hkeys⟩ := List.exists_cons_of_ne_nil (Text.segments_ne_nil '.' path)
  have hat := at?_nested v (key :: keys)
  rw [PropertySource.get?, sourceOf, hkeys]
  exact hat

/-- **When binding what bound registrations are written as gives the same registrations**, provided
that none of their texts refers to a variable that is set: exactly if none of them refers to an
inherited member either. -/
theorem registrations_written_iff {source : PropertySource} {path : String}
    {bound : Entries RegistrationProperties} (h : registrations env source path = .ok bound)
    (hliteral : ∀ b ∈ bound, Literal env b.2) :
    registrations env (sourceOf path (.map (bound.mapValues written))) path = .ok bound ↔
      ∀ b ∈ bound, ∀ s ∈ textsOf b.2, ¬ env.RefersToInherited s := by
  obtain ⟨es, horder, hbound⟩ := exists_boundAll h
  have hwritten : (bound.mapValues written).InKeyOrder :=
    (hbound.inKeyOrder horder).of_keys_eq (Entries.keys_mapValues written bound)
  have hiff : ∀ b ∈ bound, BoundTo env (written b.2) b.2 ↔
      ∀ s ∈ textsOf b.2, ¬ env.RefersToInherited s := by
    intro b hb
    obtain ⟨v, hv⟩ := hbound.exists_boundTo b hb
    exact boundTo_written_iff hv (hliteral b hb)
  rw [registrations_of_map (get?_sourceOf ..), Entries.ofList_of_inKeyOrder hwritten,
    foldlM_bindEntry_of_inKeyOrder hwritten, BoundAll, Entries.mapValues,
    List.forall₂_map_left_iff, List.forall₂_same]
  exact forall₂_congr fun b hb => (and_iff_right rfl).trans (hiff b hb)

/-- A source with a number for a text, a variable, a choice in capitals, and scopes in one text. -/
def sampleSource : PropertySource :=
  ⟨[("r", .map [("g", .map [("client-id", .num (.ofNat 5)),
    ("client-secret", .text "$\x7bSECRET\x7d"), ("scope", .text "a, b"),
    ("authorization-grant-type", .text "Authorization-Code")])])]⟩

/-- The registration that it configures. -/
def sampleBound : Entries RegistrationProperties :=
  [("g", { clientId := some "5", clientSecret := some "s", scope := some ["a", "b"]
           authorizationGrantType := some "authorization_code" })]

/-- The registration is bound to what it is written as. -/
theorem registrations_written_sample :
    let env : Environment := ⟨[("SECRET", "s")]⟩
    registrations env sampleSource "r" = .ok sampleBound ∧ (∀ b ∈ sampleBound, Literal env b.2) ∧
      registrations env (sourceOf "r" (.map (sampleBound.mapValues written))) "r" =
        .ok sampleBound := by
  intro env
  have hbound : registrations ⟨[("SECRET", "s")]⟩ sampleSource "r" = .ok sampleBound := by
    have hsome : (registrations ⟨[("SECRET", "s")]⟩ sampleSource "r").toOption =
        some sampleBound := by decide +kernel
    exact Checked.eq_ok_of_toOption hsome
  have hnone : ∀ b ∈ sampleBound, ∀ s ∈ textsOf b.2, ∀ name, s ≠ Environment.referenceTo name := by
    have hreference : ∀ b ∈ sampleBound, ∀ s ∈ textsOf b.2, Environment.reference? s = none := by
      decide +kernel
    intro b hb s hs name heq
    have hnone := hreference b hb s hs
    rw [Environment.reference?_eq_some_iff.mpr heq] at hnone
    cases hnone
  have hliteral : ∀ b ∈ sampleBound, Literal env b.2 := by
    rintro b hb s hs ⟨name, _, heq, -⟩
    exact hnone b hb s hs name heq
  refine ⟨hbound, hliteral, (registrations_written_iff hbound hliteral).mpr ?_⟩
  rintro b hb s hs ⟨name, _, heq, -⟩
  exact hnone b hb s hs name heq

/-- A scope may refer to an inherited member if it was cut from a text; as an item of a list it
cannot be read. -/
theorem registrations_written_inherited :
    let source : PropertySource :=
      ⟨[("r", .map [("g", .map [("scope", .text "x,$\x7btoString\x7d")])])]⟩
    let bound : Entries RegistrationProperties :=
      [("g", { scope := some ["x", "$\x7btoString\x7d"] })]
    (registrations ⟨[]⟩ source "r").toOption = some bound ∧ (∀ b ∈ bound, Literal ⟨[]⟩ b.2) ∧
      (registrations ⟨[]⟩ (sourceOf "r" (.map (bound.mapValues written))) "r").toOption = none := by
  refine ⟨by decide +kernel, ?_, by decide +kernel⟩
  exact fun b _ s _ => Environment.not_refersToVariable_empty s

end Binding

end OAuthClient
