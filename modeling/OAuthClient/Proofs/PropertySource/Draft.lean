import OAuthClient.Proofs.PropertySource.Put

/-!
# Adding a property

A tree that is built from properties holds each of them at the path that its name writes, has maps
on the way there and nothing besides. One more property whose name is apart from the others can be
added to such a tree, and the tree then holds it too.

## Main statements

* `PropertySource.pathOf`, `PropertySource.IsName`: the path of a name, and which texts are names.
* `PropertySource.Draft.Holds`: a tree holds properties and nothing else.
* `PropertySource.Draft.Holds.add`: a property apart from the others can be added.
* `PropertySource.Draft.Holds.not_above_of_add`, `PropertySource.Draft.Holds.not_below_of_add`:
  which properties cannot be added.
-/

namespace OAuthClient

namespace PropertySource

/-! ### Names -/

/-- The path that a name writes. -/
def pathOf (name : String) : List String := Text.segments '.' name

/-- A text names a property: it is not empty and does not end in a dot. -/
def IsName (name : String) : Prop := name ≠ "" ∧ name.toList.getLast? ≠ some '.'

instance (name : String) : Decidable (IsName name) := inferInstanceAs (Decidable (_ ∧ _))

theorem pathOf_ne_nil (name : String) : pathOf name ≠ [] := Text.segments_ne_nil '.' name

theorem eq_of_pathOf_eq {name other : String} (h : pathOf name = pathOf other) : name = other :=
  Text.eq_of_segments_eq h

/-- The path of a name is the way to a map and a key in it. -/
theorem exists_leaf (name : String) : ∃ segments leaf, pathOf name = segments ++ [leaf] :=
  ⟨(pathOf name).dropLast, (pathOf name).getLast (pathOf_ne_nil name),
    (List.dropLast_concat_getLast (pathOf_ne_nil name)).symm⟩

/-- A text is a name if the last key on its path is not empty. -/
theorem isName_iff {name : String} {segments : List String} {leaf : String}
    (hpath : pathOf name = segments ++ [leaf]) : IsName name ↔ leaf ≠ "" := by
  have hlast : (pathOf name).getLast? = some "" ↔ name = "" ∨ name.toList.getLast? = some '.' :=
    Text.getLast?_segments_eq_iff
  rw [IsName, ← not_or, ← hlast, hpath]
  simp

/-! ### One property -/

namespace Draft

theorem add_of_not_isName (draft : Draft) {name : String} (h : ¬ IsName name) (value : Value) :
    draft.add name value = .error (.invalidName name) := by
  obtain ⟨segments, leaf, hpath⟩ := exists_leaf name
  obtain rfl : leaf = "" := by simpa [isName_iff hpath] using h
  unfold add
  rw [← pathOf, hpath]
  simp

/-- A path that leads through no map with a parent leads to no parent. -/
theorem parentOn?_eq_none {draft : Draft} {path : List String}
    (h : ∀ before ∈ draft.parented, ¬ before <+: path) : draft.parentOn? path = none := by
  refine List.findSome?_eq_none_iff.mpr fun n _ => ?_
  have hparent : draft.hasParentAt (path.take n) = false := by
    have hnot : path.take n ∉ draft.parented := fun hmem => h _ hmem (List.take_prefix n path)
    simp [hasParentAt, hnot]
  cases path.drop n with
  | nil => rfl
  | cons key rest => simp [hparent]

/-- A property whose path leads to no parent is set as a leaf. -/
theorem add_eq_setLeaf {draft : Draft} {name : String} {segments : List String} {leaf : String}
    (hname : IsName name) (hpath : pathOf name = segments ++ [leaf])
    (h : ∀ before ∈ draft.parented, ¬ before <+: pathOf name) (value : Value) :
    draft.add name value = (draft.setLeaf segments leaf value).mapError (.conflict name) := by
  have hne : leaf ≠ "" := (isName_iff hpath).mp hname
  have hparent : draft.parentOn? (segments ++ [leaf]) = none := hpath ▸ parentOn?_eq_none h
  unfold add
  rw [← pathOf, hpath]
  simp [hparent]

theorem setLeaf_eq_ok_iff {draft draft' : Draft} {segments : List String} {leaf : String}
    {value : Value} : draft.setLeaf segments leaf value = .ok draft' ↔
      put draft.root segments leaf value = .ok draft'.root ∧
        draft'.parented = (mapPaths value).map (segments ++ leaf :: ·) ++ draft.parented := by
  unfold setLeaf
  obtain ⟨root', parented'⟩ := draft'
  cases put draft.root segments leaf value with
  | error cause => simp [Except.map]
  | ok root => simp [Except.map, eq_comm]

/-! ### What a tree holds -/

/-- A tree holds properties, no name of which leads on from another one, and nothing else: at the
path of a name is its value, on the way to it are maps, and apart from all names there is nothing.
Only within values there are maps with a parent. -/
structure Holds (draft : Draft) (properties : List (String × Value)) : Prop where
  below : ∀ p ∈ properties, ∀ path,
    (Value.map draft.root).at? (pathOf p.1 ++ path) = p.2.at? path
  above : ∀ p ∈ properties, ∀ path, path <+: pathOf p.1 → path ≠ pathOf p.1 →
    ∃ inner, (Value.map draft.root).at? path = some (.map inner)
  apart : ∀ path ≠ [], (∀ p ∈ properties, Apart path (pathOf p.1)) →
    (Value.map draft.root).at? path = none
  parented : ∀ before ∈ draft.parented, ∃ p ∈ properties, p.2.IsMap ∧ pathOf p.1 <+: before

theorem holds_empty : Holds {} [] where
  below := fun p hp => absurd hp List.not_mem_nil
  above := fun p hp => absurd hp List.not_mem_nil
  apart := fun path hne _ => by
    obtain ⟨key, path, rfl⟩ := List.exists_cons_of_ne_nil hne
    rfl
  parented := fun before hbefore => absurd hbefore List.not_mem_nil

/-- Only a map has maps in it. -/
theorem isMap_of_mem_mapPaths {v : Value} {path : List String} (h : path ∈ mapPaths v) :
    v.IsMap := by
  cases v with
  | map es => exact Value.isMap_map es
  | _ => exact absurd h List.not_mem_nil

section

variable {draft draft' : Draft} {properties : List (String × Value)} {p : String × Value}

/-- A property whose name is apart from the others leads to no parent. -/
theorem Holds.not_parented (h : draft.Holds properties)
    (hp : ∀ q ∈ properties, Apart (pathOf q.1) (pathOf p.1)) :
    ∀ before ∈ draft.parented, ¬ before <+: pathOf p.1 := by
  intro before hbefore hprefix
  obtain ⟨q, hq, -, hle⟩ := h.parented before hbefore
  exact (hp q hq).1 (hle.trans hprefix)

/-- Where no value is a map, nothing is found at a path from which no name leads on. -/
theorem Holds.at?_eq_none (h : draft.Holds properties) (leaves : ∀ p ∈ properties, ¬ p.2.IsMap)
    {path : List String} (hne : path ≠ []) (hnot : ∀ p ∈ properties, ¬ path <+: pathOf p.1) :
    (Value.map draft.root).at? path = none := by
  by_cases hbelow : ∃ p ∈ properties, pathOf p.1 <+: path
  · obtain ⟨p, hp, rest, rfl⟩ := hbelow
    have hrest : rest ≠ [] := by
      rintro rfl
      exact hnot p hp (by simp)
    obtain ⟨key, rest, rfl⟩ := List.exists_cons_of_ne_nil hrest
    rw [h.below p hp, Value.at?_cons_of_not_isMap (leaves p hp)]
  · exact h.apart path hne fun p hp => ⟨hnot p hp, fun hle => hbelow ⟨p, hp, hle⟩⟩

/-- A leaf that has been set apart from all properties is held beside them. -/
theorem Holds.put (h : draft.Holds properties) {segments : List String} {leaf : String}
    (hpath : pathOf p.1 = segments ++ [leaf])
    (hp : ∀ q ∈ properties, Apart (pathOf q.1) (pathOf p.1))
    (hset : draft.setLeaf segments leaf p.2 = .ok draft') : draft'.Holds (properties ++ [p]) := by
  obtain ⟨hput, hparented⟩ := setLeaf_eq_ok_iff.mp hset
  have hkept : ∀ {path}, Apart path (pathOf p.1) →
      (Value.map draft'.root).at? path = (Value.map draft.root).at? path :=
    fun hpart => at?_put_of_apart hput (hpath ▸ hpart)
  have hway : ∀ {path}, path <+: pathOf p.1 → path ≠ pathOf p.1 →
      ∃ inner, (Value.map draft'.root).at? path = some (.map inner) :=
    fun hle hne => at?_put_above hput
      (prefix_of_prefix_append_singleton (hpath ▸ hle) (hpath ▸ hne))
  refine ⟨fun q hq path => ?_, fun q hq path hle hne => ?_, fun path hne hpart => ?_,
    fun before hbefore => ?_⟩
  · rcases List.mem_append.mp hq with hq | hq
    · rw [hkept ((hp q hq).append path), h.below q hq]
    · obtain rfl := List.mem_singleton.mp hq
      rw [hpath, List.append_assoc, List.singleton_append, at?_put_below hput]
  · rcases List.mem_append.mp hq with hq | hq
    · -- The way to another name is shared with the new one at first, and then apart from it.
      have hnot : ¬ pathOf p.1 <+: path := fun hover => (hp q hq).2 (hover.trans hle)
      by_cases hshared : path <+: pathOf p.1
      · exact hway hshared fun heq => hnot (heq ▸ List.prefix_refl _)
      · rw [hkept ⟨hshared, hnot⟩]
        exact h.above q hq path hle hne
    · obtain rfl := List.mem_singleton.mp hq
      exact hway hle hne
  · rw [hkept (hpart p (by simp))]
    exact h.apart path hne fun q hq => hpart q (List.mem_append_left _ hq)
  · rw [hparented] at hbefore
    rcases List.mem_append.mp hbefore with hnew | hold
    · obtain ⟨path, hmem, rfl⟩ := List.mem_map.mp hnew
      refine ⟨p, by simp, isMap_of_mem_mapPaths hmem, ?_⟩
      rw [hpath]
      simp
    · obtain ⟨q, hq, hmap, hle⟩ := h.parented before hold
      exact ⟨q, List.mem_append_left _ hq, hmap, hle⟩

/-- A property whose name is apart from the others can be added to them. -/
theorem Holds.add (h : draft.Holds properties) (hname : IsName p.1)
    (hp : ∀ q ∈ properties, Apart (pathOf q.1) (pathOf p.1)) :
    ∃ draft', draft.add p.1 p.2 = .ok draft' ∧ draft'.Holds (properties ++ [p]) := by
  obtain ⟨segments, leaf, hpath⟩ := exists_leaf p.1
  have hnone : (Value.map draft.root).at? (pathOf p.1) = none :=
    h.apart _ (pathOf_ne_nil p.1) fun q hq => (hp q hq).symm
  have hway : MapsAlong draft.root segments := by
    intro path hle v hv
    have hon : path <+: pathOf p.1 := hpath ▸ hle.trans (List.prefix_append segments [leaf])
    by_cases hne : path = []
    · subst hne
      cases hv
      exact Value.isMap_map _
    · have hover : ∀ q ∈ properties, ¬ pathOf q.1 <+: path :=
        fun q hq hle => (hp q hq).1 (hle.trans hon)
      by_cases hshared : ∃ q ∈ properties, path <+: pathOf q.1
      · obtain ⟨q, hq, hunder⟩ := hshared
        have hother : path ≠ pathOf q.1 := fun heq => hover q hq (heq ▸ List.prefix_refl _)
        obtain ⟨inner, hinner⟩ := h.above q hq path hunder hother
        rw [hinner] at hv
        cases hv
        exact Value.isMap_map inner
      · have hpart : ∀ q ∈ properties, Apart path (pathOf q.1) :=
          fun q hq => ⟨fun hunder => hshared ⟨q, hq, hunder⟩, hover q hq⟩
        rw [h.apart path hne hpart] at hv
        cases hv
  obtain ⟨root, hput⟩ : ∃ root, PropertySource.put draft.root segments leaf p.2 = .ok root :=
    exists_put_iff.mpr ⟨hway, fun inner => by
      rw [← hpath, hnone]
      exact nofun⟩
  let next : Draft := ⟨root, (mapPaths p.2).map (segments ++ leaf :: ·) ++ draft.parented⟩
  have hset : draft.setLeaf segments leaf p.2 = .ok next := setLeaf_eq_ok_iff.mpr ⟨hput, rfl⟩
  refine ⟨next, ?_, h.put hpath hp hset⟩
  rw [add_eq_setLeaf hname hpath (h.not_parented hp), hset]
  rfl

/-- A property that has been added has a name and, where it leads to no parent, been set. -/
theorem setLeaf_of_add (hparent : ∀ before ∈ draft.parented, ¬ before <+: pathOf p.1)
    (hadd : draft.add p.1 p.2 = .ok draft') : IsName p.1 ∧ ∃ segments leaf,
      pathOf p.1 = segments ++ [leaf] ∧ draft.setLeaf segments leaf p.2 = .ok draft' := by
  obtain ⟨segments, leaf, hpath⟩ := exists_leaf p.1
  by_cases hname : IsName p.1
  · refine ⟨hname, segments, leaf, hpath, ?_⟩
    rw [add_eq_setLeaf hname hpath hparent] at hadd
    cases hset : draft.setLeaf segments leaf p.2 with
    | error cause =>
      rw [hset] at hadd
      cases hadd
    | ok next =>
      rw [hset] at hadd
      cases hadd
      rfl
  · rw [add_of_not_isName draft hname] at hadd
    cases hadd

/-- A property whose name another one leads on from cannot be added behind it. -/
theorem Holds.not_above_of_add (h : draft.Holds properties)
    (hparent : ∀ before ∈ draft.parented, ¬ before <+: pathOf p.1)
    (hadd : draft.add p.1 p.2 = .ok draft') {q : String × Value} (hq : q ∈ properties)
    (hne : q.1 ≠ p.1) : ¬ pathOf p.1 <+: pathOf q.1 := by
  intro hle
  obtain ⟨-, segments, leaf, hpath, hset⟩ := setLeaf_of_add hparent hadd
  obtain ⟨-, hleaf⟩ := exists_put_iff.mp ⟨_, (setLeaf_eq_ok_iff.mp hset).1⟩
  obtain ⟨inner, hinner⟩ :=
    h.above q hq _ hle fun heq => hne (eq_of_pathOf_eq heq.symm)
  exact hleaf inner (hpath ▸ hinner)

/-- A property whose name leads on from that of a value which is no map cannot be added. -/
theorem Holds.not_below_of_add (h : draft.Holds properties)
    (hparent : ∀ before ∈ draft.parented, ¬ before <+: pathOf p.1)
    (hadd : draft.add p.1 p.2 = .ok draft') {q : String × Value} (hq : q ∈ properties)
    (hne : q.1 ≠ p.1) (hmap : ¬ q.2.IsMap) : ¬ pathOf q.1 <+: pathOf p.1 := by
  intro hle
  obtain ⟨-, segments, leaf, hpath, hset⟩ := setLeaf_of_add hparent hadd
  obtain ⟨hway, -⟩ := exists_put_iff.mp ⟨_, (setLeaf_eq_ok_iff.mp hset).1⟩
  have hon : pathOf q.1 <+: segments :=
    prefix_of_prefix_append_singleton (hpath ▸ hle)
      (hpath ▸ fun heq => hne (eq_of_pathOf_eq heq))
  have hvalue : (Value.map draft.root).at? (pathOf q.1) = some q.2 := by
    have := h.below q hq []
    rwa [List.append_nil] at this
  exact hmap (hway _ hon _ hvalue)

end

end Draft

end PropertySource

end OAuthClient
