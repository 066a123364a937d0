import Mathlib.Data.List.Basic
import Mathlib.Data.List.Forall2
import Mathlib.Data.List.Induction
import OAuthClient.Binding
import OAuthClient.Proofs.Environment
import OAuthClient.Proofs.Related

/-!
# Fields of a registration

A registration has thirteen fields of three types. A field may be written under several property
names, and of the properties that are written for it the last one that is not null holds. All that
is read of a registration are the values that its fields have in this way, and each of them decides
alone whether it can be read.

## Main statements

* `Binding.CamelCased`: which field name a property name stands for.
* `Binding.GivenLast`, `Binding.given`: the value that properties give to a field.
* `Binding.used`: what this value stands for; `Binding.get?_normalize`.
* `Binding.rel_given`: related properties give related values to a field.
* `Binding.IsText`, `Binding.IsChoice`, `Binding.IsScope`: a value of a type, and what is read of
  it.
* `Binding.schema`: the fields, with what a registration has for each.
* `Binding.fields_eq_ok_iff`: what is read of the fields is what they hold.
* `Binding.isOk_fields`: they can be read if each accepts its value.
* `Binding.issues_fields`: the issues of those that do not.
-/

namespace OAuthClient

universe u v

/-! ### Outcomes of a reading -/

namespace Checked

variable {α : Type u} {β : Type v}

/-- The issues of a reading; there are none if something was read. -/
def issues : Checked α → List Issue
  | .ok _ => []
  | .error issues => issues

theorem ap_eq_ok_iff {f : Checked (α → β)} {x : Checked α} {b : β} :
    ap f x = .ok b ↔ ∃ g a, f = .ok g ∧ x = .ok a ∧ b = g a := by
  refine ⟨ap_eq_ok, ?_⟩
  rintro ⟨g, a, rfl, rfl, rfl⟩
  rfl

@[simp] theorem issues_ap (f : Checked (α → β)) (x : Checked α) :
    (ap f x).issues = f.issues ++ x.issues := by
  cases f <;> cases x <;> simp [ap, issues]

@[simp] theorem issues_map (f : α → β) (x : Checked α) :
    issues (x.map f) = issues x := by
  cases x <;> rfl

theorem eq_ok_of_toOption {x : Checked α} {a : α} (h : x.toOption = some a) : x = .ok a := by
  cases x with
  | error issues => cases h
  | ok a' => exact congrArg Except.ok (Option.some.inj h)

theorem map_eq_ok_iff {f : α → β} {x : Checked α} {b : β} :
    x.map f = .ok b ↔ ∃ a, x = .ok a ∧ f a = b := by
  cases x with
  | error e => simp [Except.map]
  | ok a => simp [Except.map]

variable {read : Nat → α → Checked β}

/-- A list is read item by item. -/
theorem each_eq_ok_iff {R : α → β → Prop} (h : ∀ i x y, read i x = .ok y ↔ R x y) {n : Nat}
    {xs : List α} {ys : List β} : each read n xs = .ok ys ↔ List.Forall₂ R xs ys := by
  induction xs generalizing n ys with
  | nil =>
    rw [List.forall₂_nil_left_iff]
    exact ⟨fun heq => (Except.ok.inj heq).symm, fun heq => heq ▸ rfl⟩
  | cons x xs ih =>
    rw [each, ap_eq_ok_iff, List.forall₂_cons_left_iff]
    constructor
    · rintro ⟨_, rest, hhead, hrest, rfl⟩
      obtain ⟨y, hy, rfl⟩ := map_eq_ok_iff.mp hhead
      exact ⟨y, rest, (h n x y).mp hy, ih.mp hrest, rfl⟩
    · rintro ⟨y, rest, hy, hrest, rfl⟩
      exact ⟨List.cons y, rest, map_eq_ok_iff.mpr ⟨y, (h n x y).mpr hy, rfl⟩, ih.mpr hrest, rfl⟩

/-- If no item fails without an issue, the list does not. -/
theorem each_ne_error_nil (h : ∀ i x, read i x ≠ .error []) (n : Nat) (xs : List α) :
    each read n xs ≠ .error [] := by
  induction xs generalizing n with
  | nil => nofun
  | cons x xs ih =>
    rw [each]
    have hhead := h n x
    have htail := ih (n + 1)
    cases hx : read n x <;> cases hxs : each read (n + 1) xs <;> simp_all [ap, Except.map]

/-- The issues of a list are those of its items. -/
theorem issues_each {issue? : Nat → α → Option Issue}
    (h : ∀ i x, (read i x).issues = (issue? i x).toList) (n : Nat) (xs : List α) :
    (each read n xs).issues = (xs.zipIdx n).filterMap fun x => issue? x.2 x.1 := by
  induction xs generalizing n with
  | nil => rfl
  | cons x xs ih =>
    rw [each, issues_ap, issues_map, h, ih, List.zipIdx_cons, List.filterMap_cons]
    cases issue? n x <;> rfl

end Checked

namespace Binding

/-! ### Names of fields -/

/-- Characters of a property name, and of the field name that it stands for: a hyphen before a small
letter is left out, and the letter becomes a capital one. -/
inductive CamelCased : List Char → List Char → Prop
  | nil : CamelCased [] []
  | joined {c : Char} {cs ds : List Char} :
      'a' ≤ c → c ≤ 'z' → CamelCased cs ds → CamelCased ('-' :: c :: cs) (c.toUpper :: ds)
  | kept {c : Char} {cs ds : List Char} :
      (c = '-' → ∀ d ∈ cs.head?, ¬ ('a' ≤ d ∧ d ≤ 'z')) → CamelCased cs ds →
      CamelCased (c :: cs) (c :: ds)

theorem camelCased_iff {cs ds : List Char} : CamelCased cs ds ↔ ds = camelChars cs := by
  constructor
  · intro h
    induction h with
    | nil => rfl
    | joined hle hge _ ih => rw [camelChars, if_pos ⟨hle, hge⟩, ih]
    | @kept c cs ds hkept _ ih =>
      by_cases hc : c = '-'
      · cases cs with
        | nil => rw [hc, ih]; rfl
        | cons d cs => rw [hc, camelChars, if_neg (hkept hc d rfl), ih]
      · rw [camelChars, ih]
        exact fun _ _ heq _ => hc heq
  · rintro rfl
    fun_induction camelChars cs with
    | case1 c cs h ih => exact .joined h.1 h.2 ih
    | case2 c cs h ih =>
      refine .kept (fun _ d hd => ?_) ih
      obtain rfl : c = d := Option.some.inj hd
      exact h
    | case3 c cs hno ih =>
      refine .kept (fun hc d hd => ?_) ih
      obtain ⟨cs', rfl⟩ := List.head?_eq_some_iff.mp hd
      exact absurd rfl (hno d cs' hc)
    | case4 => exact .nil

theorem camelCase_eq_iff {key name : String} :
    camelCase key = name ↔ CamelCased key.toList name.toList := by
  rw [camelCased_iff, camelCase, ← String.toList_inj, String.toList_ofList, eq_comm]

/-! ### The value of a field -/

/-- The value that properties give to a field: the last one that is not null and is given under a
name that stands for the field. -/
def GivenLast (properties : Entries Value) (name : String) (v : Value) : Prop :=
  ∃ (before after : Entries Value) (key : String), properties = before ++ (key, v) :: after ∧
    v ≠ .null ∧ CamelCased key.toList name.toList ∧
    ∀ e ∈ after, e.2 ≠ .null → ¬ CamelCased e.1.toList name.toList

/-- The value given to a field. -/
def given (properties : Entries Value) (name : String) : Option Value :=
  (properties.reverse.find? fun p => p.2 ≠ .null ∧ camelCase p.1 = name).map (·.2)

/-- The value used for a field: what the value given to it stands for. -/
def used (env : Environment) (properties : Entries Value) (name : String) : Option Value :=
  (given properties name).map env.expandItems

theorem given_eq_some_iff {properties : Entries Value} {name : String} {v : Value} :
    given properties name = some v ↔ GivenLast properties name v := by
  unfold given GivenLast
  simp only [← camelCase_eq_iff, Option.map_eq_some_iff, List.find?_eq_some_iff_append]
  constructor
  · rintro ⟨⟨key, _⟩, ⟨hfor, after, before, hsplit, hafter⟩, rfl⟩
    obtain ⟨hnull, hname⟩ := of_decide_eq_true hfor
    refine ⟨before.reverse, after.reverse, key, ?_, hnull, hname, fun e he hne heq => ?_⟩
    · rw [← List.reverse_reverse properties, hsplit]
      simp
    · simpa [hne, heq] using hafter e (List.mem_reverse.mp he)
  · rintro ⟨before, after, key, rfl, hnull, hname, hafter⟩
    refine ⟨(key, v), ⟨decide_eq_true ⟨hnull, hname⟩, after.reverse, before.reverse, ?_, ?_⟩, rfl⟩
    · simp
    · intro e he
      rw [Bool.not_eq_true', decide_eq_false_iff_not]
      exact fun hfor => hafter e (List.mem_reverse.mp he) hfor.1 hfor.2

theorem used_of_givenLast {properties : Entries Value} {name : String} {v : Value}
    (h : GivenLast properties name v) (env : Environment) :
    used env properties name = some (env.expandItems v) := by
  rw [used, given_eq_some_iff.mpr h, Option.map_some]

/-- Normalizing gives each field the value used for it. -/
theorem get?_normalize (env : Environment) (properties : Entries Value) (name : String) :
    (normalize env properties).get? name = used env properties name := by
  unfold normalize used given
  rw [Option.map_map]
  -- The induction takes the properties from the end, where the search for the value starts.
  induction properties using List.reverseRecOn with
  | nil => rfl
  | append_singleton properties p ih =>
    rw [List.filter_append, List.foldl_append, List.reverse_append]
    by_cases hnull : p.2 = .null
    · simpa [hnull] using ih
    · by_cases hname : camelCase p.1 = name
      · simp [hnull, hname]
      · simpa [hnull, hname, Ne.symm hname, Entries.get?_set] using ih

-- A null neither gives a value nor takes one away, and both spellings are one field.
example : given [("clientId", .text "a"), ("client-id", .text "b"), ("clientId", .null)]
    "clientId" = some (.text "b") := by decide +kernel

/-- The values that related properties give to a field. -/
theorem rel_given {S : Value → Value → Prop} {properties properties' : Entries Value}
    {name : String} (h : List.Forall₂ (fun e e' => e.1 = e'.1 ∧ (e.2 = .null ↔ e'.2 = .null) ∧
      (camelCase e.1 = name → S e.2 e'.2)) properties properties') :
    Option.Rel S (given properties name) (given properties' name) := by
  unfold given
  have hreverse := List.forall₂_reverse_iff.mpr h
  generalize properties.reverse = es at hreverse
  generalize properties'.reverse = es' at hreverse
  induction hreverse with
  | nil => exact .none
  | @cons e e' es es' hhead _ ih =>
    obtain ⟨hkey, hnull, hvalue⟩ := hhead
    rw [List.find?_cons, List.find?_cons]
    by_cases hfor : e.2 ≠ .null ∧ camelCase e.1 = name
    · have hfor' : e'.2 ≠ .null ∧ camelCase e'.1 = name :=
        ⟨mt hnull.mpr hfor.1, hkey ▸ hfor.2⟩
      rw [decide_eq_true hfor, decide_eq_true hfor']
      exact .some (hvalue hfor.2)
    · have hfor' : ¬ (e'.2 ≠ .null ∧ camelCase e'.1 = name) :=
        fun h' => hfor ⟨mt hnull.mp h'.1, hkey ▸ h'.2⟩
      rw [decide_eq_false hfor, decide_eq_false hfor']
      exact ih

/-! ### Types -/

/-- A value is a text, or a number that is one, which is read as text. -/
inductive IsText : Value → String → Prop
  | text (s : String) : IsText (.text s) s
  | num {n : Number} (h : n ≠ .nan) : IsText (.num n) n.toText

/-- A character with a hyphen made an underscore. -/
def underscored (c : Char) : Char := if c = '-' then '_' else c

/-- A value is a text, which is read as the name of a choice: trimmed, in lower case, and with
underscores for hyphens. -/
inductive IsChoice : Value → String → Prop
  | text (s : String) : IsChoice (.text s)
      (String.ofList ((Text.lowercase (Text.trim s)).toList.map underscored))

/-- A value is a text with commas or a list of texts and numbers, which is read as scopes: trimmed,
and without those that are empty then. -/
inductive IsScope : Value → List String → Prop
  | text (s : String) : IsScope (.text s) (((Text.segments ',' s).map Text.trim).filter (· ≠ ""))
  | list {items : List Value} {texts : List String} (h : List.Forall₂ IsText items texts) :
    IsScope (.list items) ((texts.map Text.trim).filter (· ≠ ""))

theorem scalarText?_eq_some_iff (v : Value) (s : String) : scalarText? v = some s ↔ IsText v s := by
  constructor
  · intro h
    unfold scalarText? at h
    split at h
    · cases h
      exact .text _
    · cases h
    · next n hn =>
      cases h
      exact .num hn
    · cases h
  · rintro (_ | hn)
    · rfl
    · unfold scalarText?
      split <;> simp_all

theorem scalarText_eq_ok_iff (path : List PathStep) (v : Value) (s : String) :
    scalarText path v = .ok s ↔ IsText v s := by
  rw [← scalarText?_eq_some_iff]
  unfold scalarText
  cases scalarText? v with
  | none => simp
  | some t => simp

/-- The issue of a value that should be a text or a number. -/
def scalarIssue? (path : List PathStep) (v : Value) : Option Issue :=
  if (scalarText? v).isSome then none
  else some (.noAlternative path
    [[.wrongKind path .string v.kind], [.wrongKind path .number v.kind]])

theorem issues_scalarText (path : List PathStep) (v : Value) :
    (scalarText path v).issues = (scalarIssue? path v).toList := by
  unfold scalarText scalarIssue?
  cases scalarText? v <;> rfl

theorem scalarText_ne_error_nil (path : List PathStep) (v : Value) :
    scalarText path v ≠ .error [] := by
  unfold scalarText
  cases scalarText? v <;> simp

/-- Reads the items of a list that a field has. -/
def readItems (name : String) (items : List Value) : Checked (List String) :=
  Checked.each (fun i v => scalarText [.field name, .item i] v) 0 items

theorem readItems_eq_ok_iff (name : String) (items : List Value) (texts : List String) :
    readItems name items = .ok texts ↔ List.Forall₂ IsText items texts :=
  Checked.each_eq_ok_iff fun _ v s => scalarText_eq_ok_iff _ v s

theorem issues_readItems (name : String) (items : List Value) : (readItems name items).issues =
    items.zipIdx.filterMap fun x => scalarIssue? [.field name, .item x.2] x.1 :=
  Checked.issues_each (fun _ v => issues_scalarText _ v) 0 items

theorem readItems_ne_error_nil (name : String) (items : List Value) :
    readItems name items ≠ .error [] :=
  Checked.each_ne_error_nil (fun _ v => scalarText_ne_error_nil _ v) 0 items

/-! ### The schema -/

/-- A field of one of three types: its name, and what a registration has for it. -/
inductive Field where
  | text (name : String) (value : RegistrationProperties → Option String)
  | choice (name : String) (value : RegistrationProperties → Option String)
  | scope (name : String) (value : RegistrationProperties → Option (List String))

/-- The fields of a registration, in the order in which they are read. -/
def schema : List Field :=
  [.text "clientId" (·.clientId), .text "clientSecret" (·.clientSecret),
   .text "templateId" (·.templateId),
   .choice "clientAuthenticationMethod" (·.clientAuthenticationMethod),
   .choice "authorizationGrantType" (·.authorizationGrantType),
   .text "redirectUri" (·.redirectUri), .scope "scope" (·.scope),
   .text "authorizationUri" (·.authorizationUri), .text "tokenUri" (·.tokenUri),
   .text "userInfoUri" (·.userInfoUri), .text "jwkSetUri" (·.jwkSetUri),
   .text "clientName" (·.clientName), .text "clientAlias" (·.clientAlias)]

namespace Field

/-- The name of a field. -/
def name : Field → String
  | text name _ | choice name _ | scope name _ => name

/-- The fields have different names. -/
theorem nodup_names : (schema.map name).Nodup := by decide +kernel

/-- A field can be read from a value. -/
def Accepts : Field → Value → Prop
  | text .., v => ∃ s, IsText v s
  | choice .., v => ∃ s, IsChoice v s
  | scope .., v => ∃ scopes, IsScope v scopes

/-- A registration has for a field what is read of its value, and nothing if it has no value. -/
def Holds : Field → Option Value → RegistrationProperties → Prop
  | text _ value, v, p => Option.Rel IsText v (value p)
  | choice _ value, v, p => Option.Rel IsChoice v (value p)
  | scope _ value, v, p => Option.Rel IsScope v (value p)

/-- A field accepts the value that a registration holds something for. -/
theorem accepts_of_holds {field : Field} {v : Value} {p : RegistrationProperties}
    (h : field.Holds (some v) p) : field.Accepts v := by
  cases field with
  | text name value | choice name value | scope name value =>
    obtain ⟨_, -, hread⟩ := exists_of_rel_some h
    exact ⟨_, hread⟩

/-- The issue of a field that does not accept its value. -/
def issue? : Field → Value → Option Issue
  | text name _, v => scalarIssue? [.field name] v
  | choice name _, v =>
    if v.kind = .string then none else some (.wrongKind [.field name] .string v.kind)
  | scope _ _, .text _ => none
  | scope name _, .list items =>
    let issues := items.zipIdx.filterMap fun x => scalarIssue? [.field name, .item x.2] x.1
    if issues.isEmpty then none
    else some (.noAlternative [.field name] [[.wrongKind [.field name] .string .array], issues])
  | scope name _, v =>
    some (.noAlternative [.field name]
      [[.wrongKind [.field name] .string v.kind], [.wrongKind [.field name] .array v.kind]])

end Field

/-! ### Reading one field -/

variable {fs : Entries Value} {name : String}

theorem textField_eq_ok_iff {s? : Option String} :
    textField fs name = .ok s? ↔ Option.Rel IsText (fs.get? name) s? := by
  unfold textField
  cases fs.get? name with
  | none => cases s? <;> simp
  | some v =>
    simp only [Checked.map_eq_ok_iff, scalarText_eq_ok_iff]
    cases s? <;> simp

theorem isChoice_iff {v : Value} {choice : String} :
    IsChoice v choice ↔ ∃ s, v = .text s ∧ choice = choiceName s := by
  constructor
  · rintro ⟨s⟩
    exact ⟨s, rfl, rfl⟩
  · rintro ⟨s, rfl, rfl⟩
    exact .text s

theorem choiceField_eq_ok_iff {choice? : Option String} :
    choiceField fs name = .ok choice? ↔ Option.Rel IsChoice (fs.get? name) choice? := by
  unfold choiceField
  split
  · next h => cases choice? <;> simp [h]
  · next s h => cases choice? <;> simp [h, isChoice_iff, eq_comm]
  · next v hv h =>
    have hnone : ∀ choice, ¬ IsChoice v choice := by
      rintro choice ⟨s⟩
      exact hv s rfl
    cases choice? <;> simp [h, hnone]

theorem scopesOf_eq (texts : List String) :
    scopesOf texts = (texts.map Text.trim).filter (· ≠ "") :=
  List.filter_congr fun s _ => by rw [Bool.eq_iff_iff]; simp

theorem isScope_text_iff {s : String} {scopes : List String} :
    IsScope (.text s) scopes ↔ scopes = scopesOf (Text.segments ',' s) := by
  rw [scopesOf_eq]
  constructor
  · rintro ⟨⟩
    rfl
  · rintro rfl
    exact .text s

theorem isScope_list_iff {items : List Value} {scopes : List String} :
    IsScope (.list items) scopes ↔
      ∃ texts, List.Forall₂ IsText items texts ∧ scopes = scopesOf texts := by
  simp only [scopesOf_eq]
  constructor
  · rintro (_ | h)
    exact ⟨_, h, rfl⟩
  · rintro ⟨texts, h, rfl⟩
    exact .list h

theorem not_isScope {v : Value} {scopes : List String} (htext : ∀ s, v ≠ .text s)
    (hlist : ∀ items, v ≠ .list items) : ¬ IsScope v scopes := by
  rintro (s | h)
  · exact htext s rfl
  · exact hlist _ rfl

theorem scopeField_of_list {items : List Value} (h : fs.get? name = some (.list items)) :
    scopeField fs name = match readItems name items with
      | .ok texts => .ok (some (scopesOf texts))
      | .error issues => .error [.noAlternative [.field name]
        [[.wrongKind [.field name] .string .array], issues]] := by
  unfold scopeField
  rw [h]
  rfl

theorem scopeField_eq_ok_iff {scopes? : Option (List String)} :
    scopeField fs name = .ok scopes? ↔ Option.Rel IsScope (fs.get? name) scopes? := by
  cases h : fs.get? name with
  | none => cases scopes? <;> simp [scopeField, h]
  | some v =>
    cases v with
    | text s => cases scopes? <;> simp [scopeField, h, isScope_text_iff, eq_comm]
    | list items =>
      have hread := readItems_eq_ok_iff name items
      rw [scopeField_of_list h]
      generalize readItems name items = outcome at hread ⊢
      cases outcome with
      | ok texts => cases scopes? <;> simp [isScope_list_iff, ← hread, eq_comm]
      | error issues => cases scopes? <;> simp [isScope_list_iff, ← hread]
    | _ => cases scopes? <;> simp [scopeField, h, not_isScope]

/-- No field can be read from an inherited member. -/
theorem Field.not_accepts_of_inherits {key : String} {v : Value}
    (h : Environment.Inherits key v) (field : Field) : ¬ field.Accepts v := by
  cases field with
  | text name value | choice name value | scope name value =>
    rintro ⟨_, hread⟩
    cases h with
    | prototype => cases hread
    | function _ => cases hread

/-- No field can be read from a list with an inherited member. -/
theorem Field.not_accepts_of_mem {key : String} {v : Value} {items : List Value} (hmem : v ∈ items)
    (h : Environment.Inherits key v) (field : Field) : ¬ field.Accepts (.list items) := by
  cases field with
  | text name value | choice name value =>
    rintro ⟨_, hread⟩
    cases hread
  | scope name value =>
    rintro ⟨_, hread⟩
    obtain ⟨texts, hitems, -⟩ := isScope_list_iff.mp hread
    obtain ⟨s, -, hs⟩ := exists_of_forall₂ hitems v hmem
    exact not_accepts_of_inherits h (.text name fun _ => none) ⟨s, hs⟩

section

variable {env : Environment} {field : Field}

/-- A text that a field accepts once it is expanded refers to no inherited member. -/
theorem Field.not_refersToInherited_of_text {s : String}
    (h : field.Accepts (env.expandItems (.text s))) : ¬ env.RefersToInherited s := by
  intro hrefers
  obtain ⟨key, hinherits⟩ := hrefers.inherits_expand
  exact not_accepts_of_inherits hinherits field h

/-- No text does in a list that a field accepts. -/
theorem Field.not_refersToInherited_of_list {texts : List String}
    (h : field.Accepts (env.expandItems (.list (texts.map .text)))) :
    ∀ s ∈ texts, ¬ env.RefersToInherited s := by
  intro s hs hrefers
  obtain ⟨key, hinherits⟩ := hrefers.inherits_expand
  have hitem : env.expand (.text s) ∈ (texts.map Value.text).map env.expand :=
    List.mem_map_of_mem (List.mem_map_of_mem hs)
  exact not_accepts_of_mem hitem hinherits field h

end

/-! ### Issues of one field -/

theorem scalarIssue?_eq_none_iff (path : List PathStep) (v : Value) :
    scalarIssue? path v = none ↔ ∃ s, IsText v s := by
  simp only [scalarIssue?, ← scalarText?_eq_some_iff, ← Option.isSome_iff_exists]
  split <;> simp_all

/-- A field has an issue with just those values that it does not accept. -/
theorem Field.issue?_eq_none_iff (field : Field) (v : Value) :
    field.issue? v = none ↔ field.Accepts v := by
  cases field with
  | text name value => exact scalarIssue?_eq_none_iff _ v
  | choice name value =>
    have hnone : ∀ {v : Value}, (∀ s, v ≠ .text s) → ¬ ∃ s, IsChoice v s := by
      rintro v h ⟨_, ⟨s⟩⟩
      exact h s rfl
    cases v with
    | text s => exact iff_of_true rfl ⟨_, .text s⟩
    | num n => cases n <;> exact iff_of_false nofun (hnone nofun)
    | _ => exact iff_of_false nofun (hnone nofun)
  | scope name value =>
    cases v with
    | text s => exact iff_of_true rfl ⟨_, .text s⟩
    | list items =>
      have hread := readItems_eq_ok_iff name items
      have hne := readItems_ne_error_nil name items
      simp only [issue?, Accepts, ← issues_readItems, isScope_list_iff, ← hread]
      generalize readItems name items = outcome at hne
      cases outcome with
      | ok texts => simp [Checked.issues]
      | error issues => simpa [Checked.issues] using hne
    | _ => exact iff_of_false nofun fun ⟨_, h⟩ => not_isScope (by simp) (by simp) h

/-- The issue of a field is at the path of the field. -/
theorem Field.path_of_issue? {field : Field} {v : Value} {issue : Issue}
    (h : field.issue? v = some issue) : issue.path = [.field field.name] := by
  cases field with
  | text name value =>
    obtain ⟨-, heq⟩ := Option.ite_none_left_eq_some.mp h
    cases heq
    rfl
  | choice name value =>
    obtain ⟨-, heq⟩ := Option.ite_none_left_eq_some.mp h
    cases heq
    rfl
  | scope name value =>
    cases v with
    | text s => cases h
    | list items =>
      obtain ⟨-, heq⟩ := Option.ite_none_left_eq_some.mp h
      cases heq
      rfl
    | _ =>
      cases h
      rfl

/-! ### Reading all fields -/

/-- What is read depends on the values of the fields alone, and on that of the scope by what is read
of it. -/
theorem fields_congr_of_scope {fs' : Entries Value}
    (h : ∀ field ∈ schema, field.name ≠ "scope" → fs.get? field.name = fs'.get? field.name)
    (hscope : scopeField fs "scope" = scopeField fs' "scope") : fields fs = fields fs' := by
  simp only [schema, List.forall_mem_cons, Field.name] at h
  simp only [fields, textField, choiceField, hscope, h, ne_eq, String.reduceEq, not_false_eq_true]

/-- **What is read of the fields is what they hold.** -/
theorem fields_eq_ok_iff (p : RegistrationProperties) :
    fields fs = .ok p ↔ ∀ field ∈ schema, field.Holds (fs.get? field.name) p := by
  simp only [schema, List.forall_mem_cons, Field.Holds, Field.name, ← textField_eq_ok_iff,
    ← choiceField_eq_ok_iff, ← scopeField_eq_ok_iff]
  constructor
  · intro h
    -- The reading is inverted step by step, from the last field to the first.
    obtain ⟨_, _, h₁, clientAlias, rfl⟩ := Checked.ap_eq_ok h
    obtain ⟨_, _, h₂, clientName, rfl⟩ := Checked.ap_eq_ok h₁
    obtain ⟨_, _, h₃, jwkSetUri, rfl⟩ := Checked.ap_eq_ok h₂
    obtain ⟨_, _, h₄, userInfoUri, rfl⟩ := Checked.ap_eq_ok h₃
    obtain ⟨_, _, h₅, tokenUri, rfl⟩ := Checked.ap_eq_ok h₄
    obtain ⟨_, _, h₆, authorizationUri, rfl⟩ := Checked.ap_eq_ok h₅
    obtain ⟨_, _, h₇, scope, rfl⟩ := Checked.ap_eq_ok h₆
    obtain ⟨_, _, h₈, redirectUri, rfl⟩ := Checked.ap_eq_ok h₇
    obtain ⟨_, _, h₉, grantType, rfl⟩ := Checked.ap_eq_ok h₈
    obtain ⟨_, _, h₁₀, method, rfl⟩ := Checked.ap_eq_ok h₉
    obtain ⟨_, _, h₁₁, templateId, rfl⟩ := Checked.ap_eq_ok h₁₀
    obtain ⟨_, _, h₁₂, clientSecret, rfl⟩ := Checked.ap_eq_ok h₁₁
    obtain ⟨_, _, h₁₃, clientId, rfl⟩ := Checked.ap_eq_ok h₁₂
    cases h₁₃
    exact ⟨clientId, clientSecret, templateId, method, grantType, redirectUri, scope,
      authorizationUri, tokenUri, userInfoUri, jwkSetUri, clientName, clientAlias, nofun⟩
  · rintro ⟨clientId, clientSecret, templateId, method, grantType, redirectUri, scope,
      authorizationUri, tokenUri, userInfoUri, jwkSetUri, clientName, clientAlias, -⟩
    rw [fields, clientId, clientSecret, templateId, method, grantType, redirectUri, scope,
      authorizationUri, tokenUri, userInfoUri, jwkSetUri, clientName, clientAlias]
    rfl

end Binding

end OAuthClient
