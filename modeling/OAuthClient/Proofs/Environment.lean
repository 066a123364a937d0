import OAuthClient.Environment
import OAuthClient.Proofs.Related

/-!
# What values stand for

A text refers to a name just if it is the name between a dollar sign with an opening brace and a
closing one. A reference to a variable that is set stands for what the variable holds, and one to an
inherited member for this member, which is never a text. Everything else stands for itself.

## Main statements

* `Environment.referenceTo`: the text that refers to a name.
* `Environment.Inherits`: the members that are inherited.
* `Environment.StandsFor`, `Environment.StandsForItems`: a value and what it stands for.
* `Environment.expandItems_congr`: which variables this depends on.
* `Environment.RefersToVariable`, `Environment.RefersToInherited`: texts that do not stand for
  themselves.
-/

namespace OAuthClient

namespace Environment

variable {env env' : Environment} {v w : Value} {s name value : String}

/-! ### References -/

/-- The text that refers to a name. -/
def referenceTo (name : String) : String := "$\x7b" ++ name ++ "\x7d"

theorem toList_referenceTo (name : String) :
    (referenceTo name).toList = '$' :: '\x7b' :: (name.toList ++ ['\x7d']) := by
  simp [referenceTo]

theorem reference?_eq_some_iff : reference? s = some name ↔ s = referenceTo name := by
  constructor
  · intro h
    unfold reference? at h
    split at h
    · next rest hs =>
      split at h
      · next reversed hrest =>
        cases h
        rw [← String.toList_inj, hs, toList_referenceTo, String.toList_ofList,
          List.reverse_eq_iff.mp hrest, List.reverse_cons]
      · cases h
    · cases h
  · rintro rfl
    rw [reference?, toList_referenceTo]
    simp

/-- A text refers to one name at most. -/
theorem referenceTo_inj {other : String} (h : referenceTo name = referenceTo other) :
    name = other := by
  have hname : reference? (referenceTo other) = some name := reference?_eq_some_iff.mpr h.symm
  rw [reference?_eq_some_iff.mpr rfl] at hname
  exact (Option.some.inj hname).symm

/-! ### Members -/

/-- What is inherited under a name: the prototype, or one of eleven functions. -/
inductive Inherits : String → Value → Prop
  | prototype : Inherits "__proto__" (.map [])
  | function {name : String} :
      name ∈ ["constructor", "hasOwnProperty", "isPrototypeOf", "propertyIsEnumerable",
        "toLocaleString", "toString", "valueOf", "__defineGetter__", "__defineSetter__",
        "__lookupGetter__", "__lookupSetter__"] →
      Inherits name (.function name)

theorem inherited?_eq_some_iff : inherited? name = some v ↔ Inherits name v := by
  unfold inherited?
  constructor
  · intro h
    split at h
    · next hname =>
      cases h
      exact hname ▸ .prototype
    · split at h
      · next hmem =>
        cases h
        exact .function hmem
      · cases h
  · rintro (_ | hmem)
    · rfl
    · have hne : name ≠ "__proto__" := by
        rintro rfl
        revert hmem
        decide
      exact (if_neg hne).trans (if_pos hmem)

theorem member?_of_set (h : env.get? name = some value) : env.member? name = some (.text value) := by
  rw [member?, h]
  rfl

theorem member?_of_unset (h : env.get? name = none) : env.member? name = inherited? name := by
  rw [member?, h]
  rfl

/-! ### What a value stands for -/

theorem expand_referenceTo (env : Environment) (name : String) :
    env.expand (.text (referenceTo name)) = (env.member? name).getD (.text (referenceTo name)) := by
  rw [expand, reference?_eq_some_iff.mpr rfl]
  rfl

theorem expand_referenceTo_of_set (h : env.get? name = some value) :
    env.expand (.text (referenceTo name)) = .text value := by
  rw [expand_referenceTo, member?_of_set h]
  rfl

theorem expand_referenceTo_of_inherits (h : env.get? name = none) (hinherits : Inherits name v) :
    env.expand (.text (referenceTo name)) = v := by
  rw [expand_referenceTo, member?_of_unset h, inherited?_eq_some_iff.mpr hinherits]
  rfl

/-- A value that refers to no member stands for itself. -/
theorem expand_of_no_member (h : ∀ name, v = .text (referenceTo name) → env.member? name = none) :
    env.expand v = v := by
  cases v with
  | text s =>
    rw [expand]
    cases hname : reference? s with
    | none => rfl
    | some name => rw [Option.bind_some, h name (by rw [reference?_eq_some_iff.mp hname])]; rfl
  | _ => rfl

/-- A value, and what it stands for: a reference to a variable that is set for what the variable
holds, one to an inherited member for this member, and anything else for itself. -/
inductive StandsFor (env : Environment) : Value → Value → Prop
  | set {name value : String} :
      env.get? name = some value → StandsFor env (.text (referenceTo name)) (.text value)
  | inherited {name : String} {member : Value} :
      env.get? name = none → Inherits name member →
      StandsFor env (.text (referenceTo name)) member
  | itself {v : Value} :
      (∀ name, v = .text (referenceTo name) →
        env.get? name = none ∧ ∀ member, ¬ Inherits name member) → StandsFor env v v

/-- The same for the value of a property, which may be a list of values. -/
def StandsForItems (env : Environment) : Value → Value → Prop := Value.OnItems (StandsFor env)

theorem member?_eq_none_iff :
    env.member? name = none ↔ env.get? name = none ∧ ∀ member, ¬ Inherits name member := by
  rw [member?, Option.or_eq_none_iff, Option.map_eq_none_iff]
  refine and_congr_right' ?_
  simp only [← inherited?_eq_some_iff, Option.eq_none_iff_forall_ne_some, ne_eq]

theorem standsFor_iff : StandsFor env v w ↔ w = env.expand v := by
  constructor
  · intro h
    cases h with
    | set hset => exact (expand_referenceTo_of_set hset).symm
    | inherited hunset hinherits => exact (expand_referenceTo_of_inherits hunset hinherits).symm
    | itself hno =>
      exact (expand_of_no_member fun name hv => member?_eq_none_iff.mpr (hno name hv)).symm
  · rintro rfl
    by_cases href : ∃ name, v = .text (referenceTo name)
    · obtain ⟨name, rfl⟩ := href
      cases hget : env.get? name with
      | some value =>
        rw [expand_referenceTo_of_set hget]
        exact .set hget
      | none =>
        by_cases hmember : ∃ member, Inherits name member
        · obtain ⟨member, hinherits⟩ := hmember
          rw [expand_referenceTo_of_inherits hget hinherits]
          exact .inherited hget hinherits
        · have hno : ∀ other, Value.text (referenceTo name) = .text (referenceTo other) →
              env.get? other = none ∧ ∀ member, ¬ Inherits other member := by
            intro other heq
            obtain rfl := referenceTo_inj (Value.text.inj heq)
            exact ⟨hget, not_exists.mp hmember⟩
          rw [expand_of_no_member fun other heq => member?_eq_none_iff.mpr (hno other heq)]
          exact .itself hno
    · have hno : ∀ name, v ≠ .text (referenceTo name) := not_exists.mp href
      rw [expand_of_no_member fun name hv => absurd hv (hno name)]
      exact .itself fun name hv => absurd hv (hno name)

theorem expandItems_eq (env : Environment) (v : Value) :
    env.expandItems v = v.mapItems env.expand := by
  cases v <;> rfl

theorem standsForItems_iff : StandsForItems env v w ↔ w = env.expandItems v := by
  rw [expandItems_eq]
  exact Value.onItems_iff fun _ _ => standsFor_iff

/-! ### What it depends on -/

theorem expand_congr (h : ∀ name, v = .text (referenceTo name) → env.get? name = env'.get? name) :
    env.expand v = env'.expand v := by
  cases v with
  | text s =>
    rw [expand, expand]
    cases hname : reference? s with
    | none => rfl
    | some name =>
      have hget := h name (congrArg Value.text (reference?_eq_some_iff.mp hname))
      rw [Option.bind_some, Option.bind_some, member?, member?, hget]
  | _ => rfl

/-- A text refers to a variable that is set. -/
def RefersToVariable (env : Environment) (s : String) : Prop :=
  ∃ name value, s = referenceTo name ∧ env.get? name = some value

/-- A text refers to an inherited member, and to no variable that is set. -/
def RefersToInherited (env : Environment) (s : String) : Prop :=
  ∃ name member, s = referenceTo name ∧ env.get? name = none ∧ Inherits name member

/-- Where no variable is set no text refers to one. -/
theorem not_refersToVariable_empty (s : String) : ¬ RefersToVariable ⟨[]⟩ s := by
  rintro ⟨name, value, -, hget⟩
  rw [get?_empty] at hget
  cases hget

/-- A text that refers to an inherited member stands for this member. -/
theorem RefersToInherited.inherits_expand (h : env.RefersToInherited s) :
    ∃ name, Inherits name (env.expand (.text s)) := by
  obtain ⟨name, member, rfl, hunset, hinherits⟩ := h
  exact ⟨name, expand_referenceTo_of_inherits hunset hinherits ▸ hinherits⟩

/-- A text that refers to neither stands for itself. -/
theorem expand_text_of_refersToNone (hvariable : ¬ env.RefersToVariable s)
    (hinherited : ¬ env.RefersToInherited s) : env.expand (.text s) = .text s := by
  refine expand_of_no_member fun name hname => member?_eq_none_iff.mpr ?_
  obtain rfl := Value.text.inj hname
  have hunset : env.get? name = none :=
    Option.eq_none_iff_forall_ne_some.mpr fun value hget => hvariable ⟨name, value, rfl, hget⟩
  exact ⟨hunset, fun member hinherits => hinherited ⟨name, member, rfl, hunset, hinherits⟩⟩

end Environment

end OAuthClient
