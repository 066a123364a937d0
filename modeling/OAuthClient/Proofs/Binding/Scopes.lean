import OAuthClient.Proofs.Binding.Variables
import OAuthClient.Proofs.Binding.Writing

/-!
# Ways to write scopes

The scopes of a registration are a list of texts, or one text with commas between them. Texts
without commas are bound alike in both ways, provided that neither they nor the text that they are
joined to refer to a variable that is set, and that none of them refers to an inherited member: to
the same scopes, without blanks around them and without those that are empty. A list with a text
that refers to an inherited member cannot be bound, while the text that it is joined to can if there
are others beside it.

## Main statements

* `Binding.Joinable`: texts that can be written in both ways.
* `Binding.WritesScope`: a value that writes texts in one of the ways.
* `Binding.scopesOf_segments_joined`: joining texts and cutting them apart leaves their scopes.
* `Binding.eq_singleton_of_refersToInherited`: what joins several texts refers to no inherited
  member.
* `Binding.ScopesAgree`: what the scopes of a source are; `Binding.scopesAgree`.
-/

namespace OAuthClient

namespace Binding

open Environment

variable {env : Environment} {texts scopes : List String} {v w : Value}

/-! ### Texts and joined texts -/

/-- The texts hold no comma, and neither they nor the text that they are joined to refer to a
variable that is set. -/
structure Joinable (env : Environment) (texts : List String) : Prop where
  commaFree : ∀ s ∈ texts, ',' ∉ s.toList
  unset : ∀ s ∈ texts, ¬ env.RefersToVariable s
  joined_unset : ¬ env.RefersToVariable (Text.joined ',' texts)

/-- Joining texts and cutting them apart leaves their scopes. -/
theorem scopesOf_segments_joined (h : ∀ s ∈ texts, ',' ∉ s.toList) :
    scopesOf (Text.segments ',' (Text.joined ',' texts)) = scopesOf texts := by
  by_cases hnil : texts = []
  · -- Nothing joined is the empty text, whose one segment is left out because it is empty.
    subst hnil
    rfl
  · rw [Text.segments_joined_of_not_mem hnil h]

/-- A text that refers to an inherited member has no comma, so that nothing else is joined to it. -/
theorem eq_singleton_of_refersToInherited (hcomma : ∀ s ∈ texts, ',' ∉ s.toList)
    (h : env.RefersToInherited (Text.joined ',' texts)) : texts = [Text.joined ',' texts] := by
  obtain ⟨name, _, heq, -, hinherits⟩ := h
  have hname : ',' ∉ name.toList := by
    have hall : ∀ name ∈ inheritedFunctions, ',' ∉ name.toList := by decide +kernel
    cases hinherits with
    | prototype => decide +kernel
    | function hmem => exact hall name hmem
  have hjoined : ',' ∉ (Text.joined ',' texts).toList := by
    simp [heq, toList_referenceTo, hname]
  have hnil : texts ≠ [] := by
    rintro rfl
    exact absurd (congrArg String.toList heq) (by rw [toList_referenceTo]; nofun)
  rw [← Text.segments_of_not_mem hjoined, Text.segments_joined_of_not_mem hnil hcomma]

/-- A value of a scope, written in one of two ways. -/
inductive WritesScope (texts : List String) : Value → Prop
  | list : WritesScope texts (.list (texts.map .text))
  | joined : WritesScope texts (.text (Text.joined ',' texts))

theorem WritesScope.isScope (h : WritesScope texts v) (hcomma : ∀ s ∈ texts, ',' ∉ s.toList) :
    IsScope v (scopesOf texts) := by
  cases h with
  | list => exact isScope_list_iff.mpr ⟨texts, forall₂_isText texts, rfl⟩
  | joined => exact isScope_text_iff.mpr (scopesOf_segments_joined hcomma).symm

theorem WritesScope.ne_null (h : WritesScope texts v) : v ≠ .null := by
  cases h with
  | list => nofun
  | joined => nofun

theorem expandItems_list (hjoinable : Joinable env texts)
    (hno : ∀ s ∈ texts, ¬ env.RefersToInherited s) :
    env.expandItems (.list (texts.map .text)) = .list (texts.map .text) := by
  rw [Environment.expandItems, List.map_map]
  refine congrArg Value.list (List.map_congr_left fun s hs => ?_)
  exact expand_text_of_refersToNone (hjoinable.unset s hs) (hno s hs)

theorem expandItems_joined (hjoinable : Joinable env texts)
    (hno : ¬ env.RefersToInherited (Text.joined ',' texts)) :
    env.expandItems (.text (Text.joined ',' texts)) = .text (Text.joined ',' texts) :=
  expand_text_of_refersToNone hjoinable.joined_unset hno

/-- What is written in either way stands for itself if no text refers to an inherited member. -/
theorem WritesScope.expandItems (h : WritesScope texts v) (hjoinable : Joinable env texts)
    (hno : ∀ s ∈ texts, ¬ env.RefersToInherited s) : env.expandItems v = v := by
  cases h with
  | list => exact expandItems_list hjoinable hno
  | joined =>
    refine expandItems_joined hjoinable fun hrefers => hno _ ?_ hrefers
    have hsingle := eq_singleton_of_refersToInherited hjoinable.commaFree hrefers
    exact List.mem_of_mem_head? (congrArg List.head? hsingle)

theorem not_refersToInherited_of_isScope
    (h : IsScope (env.expandItems (.list (texts.map .text))) scopes) :
    ∀ s ∈ texts, ¬ env.RefersToInherited s := by
  have haccepts : (Field.scope "scope" (·.scope)).Accepts _ := ⟨scopes, h⟩
  exact Field.not_refersToInherited_of_list haccepts

/-- What is written in either way stands for itself if scopes are read of it. -/
theorem WritesScope.expandItems_of_isScope (h : WritesScope texts v) (hjoinable : Joinable env texts)
    (hread : IsScope (env.expandItems v) scopes) : env.expandItems v = v := by
  cases h with
  | list => exact expandItems_list hjoinable (not_refersToInherited_of_isScope hread)
  | joined =>
    have haccepts : (Field.scope "scope" (·.scope)).Accepts _ := ⟨scopes, hread⟩
    exact expandItems_joined hjoinable (Field.not_refersToInherited_of_text haccepts)

/-! ### Reading -/

/-- A field of scopes is read alike from both ways. -/
theorem scopeField_congr {fs fs' : Entries Value} {name : String}
    (hcomma : ∀ s ∈ texts, ',' ∉ s.toList)
    (h : Option.Rel (fun v w => v = w ∨ WritesScope texts v ∧ WritesScope texts w)
      (fs.get? name) (fs'.get? name)) : scopeField fs name = scopeField fs' name := by
  have hread : ∀ {fs : Entries Value} {v}, fs.get? name = some v → WritesScope texts v →
      scopeField fs name = .ok (some (scopesOf texts)) := by
    intro fs v hv hwrites
    rw [scopeField_eq_ok_iff, hv]
    exact .some (hwrites.isScope hcomma)
  cases hv : fs.get? name with
  | none =>
    rw [hv] at h
    rw [scopeField, scopeField, hv, eq_none_of_rel_none h]
  | some v =>
    rw [hv] at h
    obtain ⟨w, hw, rfl | ⟨hwrites, hwrites'⟩⟩ := exists_of_rel_some h
    · rw [scopeField, scopeField, hv, hw]
    · rw [hread hv hwrites, hread hw hwrites']

/-- A registration is read alike from both ways. -/
theorem registration_changedAt_scope {properties properties' : Entries Value} {key : String}
    (hjoinable : Joinable env texts) (hno : ∀ s ∈ texts, ¬ env.RefersToInherited s)
    (hkey : camelCase key = "scope")
    (h : properties.ChangedAt key (fun v w => WritesScope texts v ∧ WritesScope texts w)
      properties') :
    registration env (.map properties) = registration env (.map properties') := by
  -- The other fields are given the values that they had; the scope is read alike from another one.
  refine fields_congr_of_scope (fun field _ hname => ?_) ?_
  · have hgiven : given properties field.name = given properties' field.name := by
      refine eq_of_rel_eq (rel_given (h.forall₂ (fun v w hvw => ?_) fun e => ?_))
      · refine ⟨rfl, iff_of_false hvw.1.ne_null hvw.2.ne_null, fun heq => ?_⟩
        exact absurd (heq.symm.trans hkey) hname
      · exact ⟨rfl, Iff.rfl, fun _ => rfl⟩
    rw [get?_normalize, get?_normalize, used, used, hgiven]
  · have hgiven : Option.Rel (fun v w => v = w ∨ WritesScope texts v ∧ WritesScope texts w)
        (given properties "scope") (given properties' "scope") := by
      refine rel_given (h.forall₂ (fun v w hvw => ?_) fun e => ?_)
      · exact ⟨rfl, iff_of_false hvw.1.ne_null hvw.2.ne_null, fun _ => .inr hvw⟩
      · exact ⟨rfl, Iff.rfl, fun _ => .inl rfl⟩
    refine scopeField_congr hjoinable.commaFree ?_
    rw [get?_normalize, get?_normalize, used, used]
    generalize given properties "scope" = v? at hgiven
    generalize given properties' "scope" = w? at hgiven
    cases hgiven with
    | none => exact .none
    | some hvw =>
      refine .some ?_
      rcases hvw with rfl | hvw
      · exact .inl rfl
      · rw [hvw.1.expandItems hjoinable hno, hvw.2.expandItems hjoinable hno]
        exact .inr hvw

/-! ### Scopes -/

theorem mem_scopesOf_iff {s : String} :
    s ∈ scopesOf texts ↔ s ≠ "" ∧ ∃ text ∈ texts, Text.trim text = s := by
  simp [scopesOf_eq, and_comm]

/-- What is read of a value as scopes is determined by the value. -/
theorem IsScope.unique {scopes scopes' : List String} (h : IsScope v scopes)
    (h' : IsScope v scopes') : scopes = scopes' := by
  have hread : ∀ {scopes}, IsScope v scopes →
      scopeField [("scope", v)] "scope" = .ok (some scopes) := fun h =>
    scopeField_eq_ok_iff.mpr (.some h)
  exact Option.some.inj (Except.ok.inj ((hread h).symm.trans (hread h')))

/-- A scope is not empty and has no blanks around it. -/
theorem trimmed_of_isScope (h : IsScope v scopes) :
    ∀ s ∈ scopes, s ≠ "" ∧ Text.Trimmed s.toList := by
  intro s hs
  obtain ⟨texts, rfl⟩ := h.exists_scopesOf
  obtain ⟨htrim, hne⟩ := trim_of_mem_scopesOf hs
  exact ⟨by simpa using hne, Text.trimmed_of_trim_eq htrim⟩

/-- A scope that is read from one text has no comma. -/
theorem commaFree_of_isScope {t : String} (h : IsScope (.text t) scopes) :
    ∀ s ∈ scopes, ',' ∉ s.toList := by
  intro s hs hcomma
  rw [isScope_text_iff.mp h] at hs
  obtain ⟨-, segment, hsegment, rfl⟩ := mem_scopesOf_iff.mp hs
  exact Text.not_mem_of_mem_segments hsegment (Text.mem_of_mem_trim hcomma)

/-- The scopes of a registration are read of the value used for them. -/
theorem BoundTo.rel_isScope {properties : Entries Value} {p : RegistrationProperties}
    (h : BoundTo env (.map properties) p) :
    Option.Rel IsScope (used env properties "scope") p.scope := by
  obtain ⟨_, heq, hholds⟩ := h
  cases heq
  exact hholds (.scope "scope" (·.scope)) (by simp [schema])

theorem BoundTo.exists_isScope {p : RegistrationProperties} {scopes : List String}
    (h : BoundTo env v p) (hscopes : p.scope = some scopes) : ∃ w, IsScope w scopes := by
  obtain ⟨properties, rfl, -⟩ := id h
  have hrel := h.rel_isScope
  rw [hscopes] at hrel
  generalize used env properties "scope" = w? at hrel
  cases hrel with
  | some h => exact ⟨_, h⟩

/-- Either way of writing texts is read as their scopes, exactly if no text refers to an inherited
member. -/
theorem isScope_writesScope_iff (hjoinable : Joinable env texts) :
    (∀ v, WritesScope texts v → IsScope (env.expandItems v) (scopesOf texts)) ↔
      ∀ s ∈ texts, ¬ env.RefersToInherited s := by
  constructor
  · exact fun h => not_refersToInherited_of_isScope (h _ .list)
  · intro hno v hwrites
    rw [hwrites.expandItems hjoinable hno]
    exact hwrites.isScope hjoinable.commaFree

/-- What the scopes of the registrations below a prefix are. -/
structure ScopesAgree (env : Environment) (source : PropertySource) (path : String) : Prop where
  /-- Either way of writing texts is read as the texts without blanks around them, except for empty
  ones: exactly if no text refers to an inherited member. -/
  read_iff {texts : List String} : Joinable env texts →
    ((∀ v w, WritesScope texts v → env.StandsForItems v w →
        IsScope w ((texts.map Text.trim).filter (· ≠ ""))) ↔
      ∀ s ∈ texts, ¬ env.RefersToInherited s)
  /-- Then a source that differs in the way in which one scope is written is bound alike. -/
  alike {source' : PropertySource} {texts : List String} {id key : String} :
    Joinable env texts → (∀ s ∈ texts, ¬ env.RefersToInherited s) →
      CamelCased key.toList "scope".toList →
      source.ChangedAt (fun v w => WritesScope texts v ∧ WritesScope texts w)
        (Text.segments '.' path ++ [id, key]) source' →
        registrations env source path = registrations env source' path
  /-- Else the list that is given to a registration is not bound. -/
  refused {es properties : Entries Value} {texts : List String} {id : String} :
    source.get? path = some (.map es) → (Entries.ofList es).get? id = some (.map properties) →
      GivenLast properties "scope" (.list (texts.map .text)) →
        (∃ s ∈ texts, env.RefersToInherited s) → ∀ bound, registrations env source path ≠ .ok bound
  /-- What is bound of either way are the texts without blanks around them, except for empty
  ones. -/
  scopes {es properties : Entries Value} {bound : Entries RegistrationProperties}
      {p : RegistrationProperties} {id : String} {texts : List String} {v : Value} :
    source.get? path = some (.map es) → (Entries.ofList es).get? id = some (.map properties) →
      registrations env source path = .ok bound → bound.get? id = some p → Joinable env texts →
        GivenLast properties "scope" v → WritesScope texts v →
          p.scope = some ((texts.map Text.trim).filter (· ≠ ""))
  /-- However it was written, a scope is not empty and has no blanks around it. -/
  trimmed {bound : Entries RegistrationProperties} :
    registrations env source path = .ok bound → ∀ b ∈ bound, ∀ scopes, b.2.scope = some scopes →
      ∀ s ∈ scopes, s ≠ "" ∧ Text.Trimmed s.toList
  /-- A scope from a text, which may be that of a variable, has no comma. -/
  commaFree {es properties : Entries Value} {bound : Entries RegistrationProperties}
      {p : RegistrationProperties} {id t : String} {v : Value} {scopes : List String} :
    source.get? path = some (.map es) → (Entries.ofList es).get? id = some (.map properties) →
      registrations env source path = .ok bound → bound.get? id = some p →
        GivenLast properties "scope" v → env.StandsForItems v (.text t) → p.scope = some scopes →
          ∀ s ∈ scopes, ',' ∉ s.toList

/-- **Scopes are the same whichever way they are written, if none refers to an inherited member.**
-/
theorem scopesAgree (env : Environment) (source : PropertySource) (path : String) :
    ScopesAgree env source path where
  read_iff {texts} hjoinable := by
    rw [← scopesOf_eq, ← isScope_writesScope_iff hjoinable]
    constructor
    · exact fun h v hwrites => h v _ hwrites (standsForItems_iff.mpr rfl)
    · intro h v w hwrites hstands
      rw [standsForItems_iff.mp hstands]
      exact h v hwrites
  alike hjoinable hno hkey h := by
    refine registrations_congr (rel_mono h.rel_get?_append fun v w hvw => ?_)
    refine hvw.mono fun es es' hes => ?_
    refine hes.forall₂ (fun v w hvw => ⟨rfl, ?_⟩) fun e => ⟨rfl, rfl⟩
    cases hvw with
    | map hproperties =>
      exact registration_changedAt_scope hjoinable hno (camelCase_eq_iff.mpr hkey) hproperties
    | other _ => rfl
  refused hget hid hgiven hrefers bound hbound := by
    obtain ⟨s, hs, hrefers⟩ := hrefers
    obtain ⟨p, -, hto⟩ := exists_boundTo_of_get? hget hbound hid
    have hrel := hto.rel_isScope
    rw [used_of_givenLast hgiven] at hrel
    obtain ⟨scopes, -, hread⟩ := exists_of_rel_some hrel
    exact not_refersToInherited_of_isScope hread s hs hrefers
  scopes hget hid hbound hp hjoinable hgiven hwrites := by
    have hrel := (boundTo_of_get? hget hbound hid hp).rel_isScope
    rw [used_of_givenLast hgiven] at hrel
    obtain ⟨scopes, hscopes, hread⟩ := exists_of_rel_some hrel
    rw [hwrites.expandItems_of_isScope hjoinable hread] at hread
    rw [hscopes, hread.unique (hwrites.isScope hjoinable.commaFree), scopesOf_eq]
  trimmed hbound b hb scopes hscopes := by
    obtain ⟨es, -, hall⟩ := exists_boundAll hbound
    obtain ⟨v, hto⟩ := hall.exists_boundTo b hb
    obtain ⟨w, h⟩ := hto.exists_isScope hscopes
    exact trimmed_of_isScope h
  commaFree hget hid hbound hp hgiven hstands hscopes := by
    have hrel := (boundTo_of_get? hget hbound hid hp).rel_isScope
    rw [used_of_givenLast hgiven, ← standsForItems_iff.mp hstands, hscopes] at hrel
    obtain ⟨h⟩ := hrel
    exact commaFree_of_isScope h

/-- A list with a text that refers to an inherited member cannot be bound; the text that it is
joined to can. -/
theorem scopesAgree_inherited :
    let texts := ["$\x7btoString\x7d", "b"]
    let source (v : Value) : PropertySource := ⟨[("r", .map [("g", .map [("scope", v)])])]⟩
    Joinable ⟨[]⟩ texts ∧
      (registrations ⟨[]⟩ (source (.list (texts.map .text))) "r").toOption = none ∧
      (registrations ⟨[]⟩ (source (.text (Text.joined ',' texts))) "r").toOption =
        some [("g", { scope := some texts })] := by
  intro texts source
  have hcomma : ∀ s ∈ texts, ',' ∉ s.toList := by decide +kernel
  have hjoinable : Joinable ⟨[]⟩ texts :=
    ⟨hcomma, fun s _ => not_refersToVariable_empty s, not_refersToVariable_empty _⟩
  exact ⟨hjoinable, by decide +kernel, by decide +kernel⟩

-- Blanks of any kind are trimmed, and what is empty then is left out.
example : (registrations ⟨[]⟩
    ⟨[("r", .map [("g", .map [("scope", .text ",b, \u3000,\ufeffa b\n,")])])]⟩ "r").toOption =
    some [("g", { scope := some ["b", "a b"] })] := by decide +kernel

end Binding

end OAuthClient
