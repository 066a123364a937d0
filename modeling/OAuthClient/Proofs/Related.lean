import Mathlib.Data.List.Forall2
import OAuthClient.PropertySource

/-!
# Related values

How two sources differ is said by a relation between their values, which is carried through lists of
entries, through maps and along paths. Reading both in the same way gives related results.

## Main statements

* `Entries.Pointwise`: entries with the same keys and related values; `Entries.Pointwise.ofList`.
* `Value.OnItems`: lists with related items, or related values; `Value.onItems_iff`.
* `Entries.ChangedAt`, `Value.ChangedAt`, `PropertySource.ChangedAt`: nothing is changed but what is
  under a key, or at a path.
* `Value.ChangedAt.rel_at?`: what is found at the path that is changed is related.
* `PropertySource.existsUnique_changedAt`: if every value is related to just one, so is every
  source.
-/

namespace OAuthClient

universe u v

/-! ### Related options -/

section

variable {α : Type u} {β : Type v} {R S : α → β → Prop} {a? : Option α} {b? : Option β}

theorem rel_mono (h : Option.Rel R a? b?) (hRS : ∀ a b, R a b → S a b) : Option.Rel S a? b? := by
  cases h with
  | none => exact .none
  | some hab => exact .some (hRS _ _ hab)

theorem eq_none_of_rel_none (h : Option.Rel R none b?) : b? = none := by
  cases h
  rfl

theorem exists_of_rel_some {a : α} (h : Option.Rel R (some a) b?) : ∃ b, b? = some b ∧ R a b := by
  cases h with
  | some hab => exact ⟨_, rfl, hab⟩

theorem eq_of_rel_eq {a? b? : Option α} (h : Option.Rel Eq a? b?) : a? = b? := by
  cases h with
  | none => rfl
  | some heq => exact congrArg some heq

/-- Every item of a list is related to some item of a related list. -/
theorem exists_of_forall₂ {xs : List α} {ys : List β} (h : List.Forall₂ R xs ys) :
    ∀ x ∈ xs, ∃ y ∈ ys, R x y := by
  induction h with
  | nil => exact fun _ hx => absurd hx List.not_mem_nil
  | @cons x y xs ys hxy _ ih =>
    refine List.forall_mem_cons.mpr ⟨⟨y, List.mem_cons_self, hxy⟩, fun x' hx' => ?_⟩
    obtain ⟨y', hy', hxy'⟩ := ih x' hx'
    exact ⟨y', List.mem_cons_of_mem y hy', hxy'⟩

end

/-! ### Related entries -/

namespace Entries

section

variable {α : Type u} {β : Type v} {R : α → β → Prop} {es : Entries α} {es' : Entries β}

/-- Entries with the same keys in the same order, and values that are related. -/
def Pointwise (R : α → β → Prop) : Entries α → Entries β → Prop :=
  List.Forall₂ fun e e' => e.1 = e'.1 ∧ R e.2 e'.2

theorem Pointwise.keys_eq (h : Pointwise R es es') : keys es' = keys es := by
  induction h with
  | nil => rfl
  | cons hhead _ ih => exact congrArg₂ List.cons hhead.1.symm ih

theorem Pointwise.rel_get? (h : Pointwise R es es') (key : String) :
    Option.Rel R (get? es key) (get? es' key) := by
  induction h with
  | nil => exact .none
  | @cons e e' es es' hhead _ ih =>
    rw [get?_cons, get?_cons, ← hhead.1]
    split
    · exact .some hhead.2
    · exact ih

theorem Pointwise.place (h : Pointwise R es es') (key : String) {v : α} {w : β} (hvw : R v w) :
    Pointwise R (place key v es) (place key w es') := by
  induction h with
  | nil => exact .cons ⟨rfl, hvw⟩ .nil
  | @cons e e' es es' hhead htail ih =>
    rw [Entries.place, Entries.place, ← hhead.1]
    split
    · exact .cons ⟨rfl, hvw⟩ (.cons hhead htail)
    · exact .cons hhead ih

theorem Pointwise.set (h : Pointwise R es es') (key : String) {v : α} {w : β} (hvw : R v w) :
    Pointwise R (es.set key v) (es'.set key w) := by
  unfold Entries.set
  rw [h.keys_eq]
  split
  · refine List.forall₂_map_left_iff.mpr (List.forall₂_map_right_iff.mpr ?_)
    refine h.imp fun e e' hee' => ?_
    rw [← hee'.1]
    split
    · exact ⟨rfl, hvw⟩
    · exact hee'
  · exact h.place key hvw

/-- Giving the same keys related values makes related entries. -/
theorem Pointwise.ofList (h : Pointwise R es es') : Pointwise R (ofList es) (ofList es') := by
  refine List.rel_foldl ?_ List.Forall₂.nil h
  intro acc acc' hacc e e' hee'
  show Pointwise R (Entries.set acc e.1 e.2) (Entries.set acc' e'.1 e'.2)
  rw [← hee'.1]
  exact Pointwise.set hacc e.1 hee'.2

end

section

variable {α : Type u} {R : α → α → Prop} {es es' : Entries α} {key : String}

/-- Entries that are the same but for the value under a key, if there is one, which is related. -/
inductive ChangedAt (key : String) (R : α → α → Prop) : Entries α → Entries α → Prop
  | nil : ChangedAt key R [] []
  | here {v w : α} {es : Entries α} : R v w → ChangedAt key R ((key, v) :: es) ((key, w) :: es)
  | there {e : String × α} {es es' : Entries α} :
      e.1 ≠ key → ChangedAt key R es es' → ChangedAt key R (e :: es) (e :: es')

theorem existsUnique_changedAt (key : String) (h : ∀ v, ∃! w, R v w) (es : Entries α) :
    ∃! es', ChangedAt key R es es' := by
  induction es with
  | nil =>
    refine ⟨[], .nil, ?_⟩
    rintro _ ⟨⟩
    rfl
  | cons e es ih =>
    by_cases hkey : e.1 = key
    · obtain ⟨_, v⟩ := e
      obtain rfl := hkey
      obtain ⟨w, hw, hunique⟩ := h v
      refine ⟨(_, w) :: es, .here hw, ?_⟩
      rintro _ (_ | hw' | hne)
      · rw [hunique _ hw']
      · exact absurd rfl hne
    · obtain ⟨es', hes', hunique⟩ := ih
      refine ⟨e :: es', .there hkey hes', ?_⟩
      rintro _ (_ | _ | ⟨_, hrest⟩)
      · exact absurd rfl hkey
      · rw [hunique _ hrest]

theorem ChangedAt.rel_get? (h : ChangedAt key R es es') :
    Option.Rel R (get? es key) (get? es' key) := by
  induction h with
  | nil => exact .none
  | here hvw =>
    rw [get?_cons, get?_cons, if_pos rfl, if_pos rfl]
    exact .some hvw
  | there hne _ ih =>
    rw [get?_cons, get?_cons, if_neg hne, if_neg hne]
    exact ih

/-- Entries that are the same but for one key are related one by one. -/
theorem ChangedAt.forall₂ {S : String × α → String × α → Prop} (h : ChangedAt key R es es')
    (hhere : ∀ v w, R v w → S (key, v) (key, w)) (hsame : ∀ e, S e e) :
    List.Forall₂ S es es' := by
  induction h with
  | nil => exact .nil
  | here hvw => exact .cons (hhere _ _ hvw) (List.forall₂_same.mpr fun e _ => hsame e)
  | there _ _ ih => exact .cons (hsame _) ih

end

end Entries

/-! ### Related values -/

namespace Value

variable {R : Value → Value → Prop} {S T : Entries Value → Entries Value → Prop} {v w : Value}

/-- Two maps whose entries are related, or one value that is no map. -/
inductive OnEntries (S : Entries Value → Entries Value → Prop) : Value → Value → Prop
  | map {es es' : Entries Value} : S es es' → OnEntries S (.map es) (.map es')
  | other {v : Value} : (∀ es, v ≠ .map es) → OnEntries S v v

theorem OnEntries.mono (h : OnEntries S v w) (hST : ∀ es es', S es es' → T es es') :
    OnEntries T v w := by
  cases h with
  | map h => exact .map (hST _ _ h)
  | other h => exact .other h

theorem existsUnique_onEntries (h : ∀ es, ∃! es', S es es') (v : Value) :
    ∃! w, OnEntries S v w := by
  by_cases hmap : ∀ es, v ≠ .map es
  · refine ⟨v, .other hmap, ?_⟩
    rintro _ (_ | _)
    · exact absurd rfl (hmap _)
    · rfl
  · obtain ⟨es, rfl⟩ := not_forall_not.mp hmap
    obtain ⟨es', hes', hunique⟩ := h es
    refine ⟨.map es', .map hes', ?_⟩
    rintro _ (hother | hother)
    · rw [hunique _ hother]
    · exact absurd rfl (hother es)

/-- Two lists whose items are related, or two values that are related, the first of which is no
list. -/
inductive OnItems (R : Value → Value → Prop) : Value → Value → Prop
  | list {items items' : List Value} :
      List.Forall₂ R items items' → OnItems R (.list items) (.list items')
  | single {v w : Value} : (∀ items, v ≠ .list items) → R v w → OnItems R v w

/-- A list with a function applied to its items; any other value with it applied to itself. -/
def mapItems (f : Value → Value) : Value → Value
  | list items => .list (items.map f)
  | v => f v

theorem mapItems_of_not_list {f : Value → Value} (h : ∀ items, v ≠ .list items) :
    v.mapItems f = f v := by
  cases v with
  | list items => exact absurd rfl (h items)
  | _ => rfl

/-- If every value is related to what a function makes of it alone, so is every list. -/
theorem onItems_iff {f : Value → Value} (h : ∀ v w, R v w ↔ w = f v) :
    OnItems R v w ↔ w = v.mapItems f := by
  constructor
  · rintro (hitems | ⟨hlist, hsingle⟩)
    · refine congrArg Value.list ?_
      induction hitems with
      | nil => rfl
      | cons hhead _ ih => rw [List.map_cons, (h _ _).mp hhead, ih]
    · rw [mapItems_of_not_list hlist, (h v w).mp hsingle]
  · rintro rfl
    by_cases hlist : ∀ items, v ≠ .list items
    · rw [mapItems_of_not_list hlist]
      exact .single hlist ((h v _).mpr rfl)
    · obtain ⟨items, rfl⟩ := not_forall_not.mp hlist
      refine .list (List.forall₂_map_right_iff.mpr (List.forall₂_same.mpr fun v _ => ?_))
      exact (h v _).mpr rfl

/-- Values that are the same but for what is at a path, if there is something, which is related. -/
def ChangedAt (R : Value → Value → Prop) : List String → Value → Value → Prop
  | [] => R
  | key :: keys => OnEntries (Entries.ChangedAt key (ChangedAt R keys))

theorem changedAt_append (keys more : List String) :
    ChangedAt R (keys ++ more) = ChangedAt (ChangedAt R more) keys := by
  induction keys with
  | nil => rfl
  | cons key keys ih => rw [List.cons_append, ChangedAt, ChangedAt, ih]

theorem existsUnique_changedAt (h : ∀ v, ∃! w, R v w) (keys : List String) :
    ∀ v, ∃! w, ChangedAt R keys v w := by
  induction keys with
  | nil => exact h
  | cons key keys ih => exact existsUnique_onEntries (Entries.existsUnique_changedAt key ih)

/-- What is at the path that is changed is related. -/
theorem ChangedAt.rel_at? {keys : List String} (h : ChangedAt R keys v w) :
    Option.Rel R (v.at? keys) (w.at? keys) := by
  induction keys generalizing v w with
  | nil => exact .some h
  | cons key keys ih =>
    rw [ChangedAt] at h
    rw [at?, at?]
    cases h with
    | @map es es' hes =>
      have hget : Option.Rel (ChangedAt R keys) ((Value.map es).get? key)
          ((Value.map es').get? key) := hes.rel_get?
      generalize (Value.map es).get? key = v? at hget
      generalize (Value.map es').get? key = w? at hget
      cases hget with
      | none => exact .none
      | some hvw => exact ih hvw
    | other hmap =>
      have hnone : v.get? key = none := by
        cases v with
        | map es => exact absurd rfl (hmap es)
        | _ => rfl
      rw [hnone]
      exact .none

end Value

namespace PropertySource

/-- Sources that are the same but for what is at a path, if there is something, which is related. -/
def ChangedAt (R : Value → Value → Prop) (keys : List String) (source source' : PropertySource) :
    Prop :=
  Value.ChangedAt R keys (.map source.root) (.map source'.root)

variable {R : Value → Value → Prop} {path : String} {source source' : PropertySource}

/-- If every value is related to just one, so is every source. -/
theorem existsUnique_changedAt (h : ∀ v, ∃! w, R v w) (path : String) (source : PropertySource) :
    ∃! source', ChangedAt R (Text.segments '.' path) source source' := by
  unfold ChangedAt
  obtain ⟨w, hw, hunique⟩ :=
    Value.existsUnique_changedAt h (Text.segments '.' path) (.map source.root)
  -- A path is never empty, so that a map is changed within.
  obtain ⟨key, keys, hkeys⟩ := List.exists_cons_of_ne_nil (Text.segments_ne_nil '.' path)
  obtain ⟨root, rfl⟩ : ∃ root, w = .map root := by
    rw [hkeys] at hw
    cases hw with
    | map _ => exact ⟨_, rfl⟩
    | other hmap => exact absurd rfl (hmap _)
  refine ⟨⟨root⟩, hw, fun source' h' => ?_⟩
  exact congrArg PropertySource.mk (Value.map.inj (hunique _ h'))

theorem ChangedAt.rel_get? (h : ChangedAt R (Text.segments '.' path) source source') :
    Option.Rel R (source.get? path) (source'.get? path) :=
  Value.ChangedAt.rel_at? h

theorem ChangedAt.rel_get?_append {more : List String}
    (h : ChangedAt R (Text.segments '.' path ++ more) source source') :
    Option.Rel (Value.ChangedAt R more) (source.get? path) (source'.get? path) := by
  rw [ChangedAt, Value.changedAt_append] at h
  exact h.rel_at?

end PropertySource

end OAuthClient
