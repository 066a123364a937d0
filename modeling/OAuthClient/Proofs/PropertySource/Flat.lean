import Mathlib.Data.List.Pairwise
import OAuthClient.Proofs.PropertySource.Draft

/-!
# Building from flat properties

Properties whose names are apart from each other can be added in every order, and each of them is
then read as it was given. Where no value is a map, a tree can be built from no other properties. A
value that is a map lets the names after it lead into it, where they may replace what it holds; if
they come first, the map is refused.

## Main statements

* `PropertySource.Above`, `PropertySource.Separate`: a name on the way to another one, and names
  none of which is.
* `PropertySource.Accepted`: a tree can be built from properties.
* `PropertySource.ofFlat_reads_leaves`: which properties without maps are accepted, and what every
  path then reads.
* `PropertySource.keepsValues_iff`: when no value that is configured is lost and the order does not
  matter, values that are maps included.
-/

namespace OAuthClient

namespace PropertySource

/-! ### Names -/

/-- A name is on the way to another one. -/
def Above (name other : String) : Prop := pathOf name <+: pathOf other ∧ pathOf name ≠ pathOf other

/-- No name is on the way to another one. -/
def Separate (names : List String) : Prop :=
  ∀ name ∈ names, ∀ other ∈ names, ¬ Above name other

instance (name other : String) : Decidable (Above name other) :=
  inferInstanceAs (Decidable (_ ∧ _))

instance (names : List String) : Decidable (Separate names) :=
  inferInstanceAs (Decidable (∀ name ∈ names, ∀ other ∈ names, ¬ Above name other))

/-- The names of two properties are apart. -/
def ApartNames (p q : String × Value) : Prop := Apart (pathOf p.1) (pathOf q.1)

instance : Std.Symm ApartNames := ⟨fun _ _ h => h.symm⟩

/-- Different names neither of which is on the way to the other are apart. -/
theorem apart_of_not_above {name other : String} (hne : name ≠ other) (hname : ¬ Above name other)
    (hother : ¬ Above other name) : Apart (pathOf name) (pathOf other) :=
  ⟨fun hle => hname ⟨hle, fun heq => hne (eq_of_pathOf_eq heq)⟩,
    fun hle => hother ⟨hle, fun heq => hne (eq_of_pathOf_eq heq).symm⟩⟩

theorem pairwise_apartNames_iff {properties : Entries Value} (distinct : properties.keys.Nodup) :
    properties.Pairwise ApartNames ↔ Separate properties.keys := by
  constructor
  · intro h name hname other hother habove
    obtain ⟨p, hp, rfl⟩ := List.mem_map.mp hname
    obtain ⟨q, hq, rfl⟩ := List.mem_map.mp hother
    have hne : p ≠ q := fun heq => habove.2 (congrArg (fun p => pathOf p.1) heq)
    exact (h.forall hp hq hne).1 habove.1
  · intro h
    refine (List.pairwise_map.mp distinct).imp_of_mem fun {p q} hp hq hne => ?_
    have hname : p.1 ∈ properties.keys := List.mem_map_of_mem hp
    have hother : q.1 ∈ properties.keys := List.mem_map_of_mem hq
    exact apart_of_not_above hne (h _ hname _ hother) (h _ hother _ hname)

/-- The keys of a path can be written behind a name. -/
theorem pathOf_joined (name : String) {path : List String}
    (h : ∀ key ∈ path, '.' ∉ key.toList) :
    pathOf (Text.joined '.' (name :: path)) = pathOf name ++ path := by
  have hkeys : path.flatMap pathOf = path := by
    induction path with
    | nil => rfl
    | cons key path ih =>
      have hkey : pathOf key = [key] := Text.segments_of_not_mem (h key List.mem_cons_self)
      rw [List.flatMap_cons, hkey, ih fun other hother => h other (List.mem_cons_of_mem key hother)]
      rfl
  calc pathOf (Text.joined '.' (name :: path))
      = (name :: path).flatMap pathOf := Text.segments_joined (List.cons_ne_nil name path)
    _ = pathOf name ++ path := by rw [List.flatMap_cons, hkeys]

/-! ### Adding all properties -/

namespace Draft

/-- Adds properties one after the other. -/
def addAll (draft : Draft) (properties : List (String × Value)) : Except FlatError Draft :=
  properties.foldlM (fun (draft : Draft) p => draft.add p.1 p.2) draft

section

variable {draft draft' : Draft} {done properties : List (String × Value)} {p : String × Value}

theorem addAll_cons_eq_ok_iff : draft.addAll (p :: properties) = .ok draft' ↔
    ∃ next, draft.add p.1 p.2 = .ok next ∧ next.addAll properties = .ok draft' := by
  unfold addAll
  rw [List.foldlM_cons]
  cases draft.add p.1 p.2 with
  | error e => exact ⟨nofun, nofun⟩
  | ok next => simp [bind, Except.bind]

/-- Only properties with a name can be added. -/
theorem isName_of_addAll (h : draft.addAll properties = .ok draft') :
    ∀ p ∈ properties, IsName p.1 := by
  induction properties generalizing draft with
  | nil => exact fun p hp => absurd hp List.not_mem_nil
  | cons p properties ih =>
    obtain ⟨next, hadd, hrest⟩ := addAll_cons_eq_ok_iff.mp h
    refine List.forall_mem_cons.mpr ⟨?_, ih hrest⟩
    refine Classical.byContradiction fun hname => ?_
    rw [add_of_not_isName draft hname] at hadd
    cases hadd

/-- Properties that are apart from each other and from those of a tree can be added to it. -/
theorem Holds.addAll (h : draft.Holds done) (hnames : ∀ p ∈ properties, IsName p.1)
    (hpart : (done ++ properties).Pairwise ApartNames) :
    ∃ draft', draft.addAll properties = .ok draft' ∧ draft'.Holds (done ++ properties) := by
  induction properties generalizing draft done with
  | nil => exact ⟨draft, rfl, by rwa [List.append_nil]⟩
  | cons p properties ih =>
    have hp : ∀ q ∈ done, Apart (pathOf q.1) (pathOf p.1) :=
      fun q hq => (List.pairwise_append.mp hpart).2.2 q hq p List.mem_cons_self
    obtain ⟨next, hadd, hnext⟩ := h.add (hnames p List.mem_cons_self) hp
    rw [List.append_cons] at hpart ⊢
    obtain ⟨draft', hall, hdraft'⟩ :=
      ih hnext (fun q hq => hnames q (List.mem_cons_of_mem p hq)) hpart
    exact ⟨draft', addAll_cons_eq_ok_iff.mpr ⟨next, hadd, hall⟩, hdraft'⟩

/-- A property that is apart from those of a tree is held once it has been added. -/
theorem Holds.of_add (h : draft.Holds done) (hp : ∀ q ∈ done, Apart (pathOf q.1) (pathOf p.1))
    (hadd : draft.add p.1 p.2 = .ok draft') : draft'.Holds (done ++ [p]) := by
  obtain ⟨-, segments, leaf, hpath, hset⟩ := setLeaf_of_add (h.not_parented hp) hadd
  exact h.put hpath hp hset

/-- Properties whose values are no maps can only be added to one another if they are apart. -/
theorem Holds.pairwise_of_addAll (h : draft.Holds done)
    (leaves : ∀ p ∈ done ++ properties, ¬ p.2.IsMap)
    (distinct : (Entries.keys (done ++ properties)).Nodup) (hpart : done.Pairwise ApartNames)
    (hall : draft.addAll properties = .ok draft') : (done ++ properties).Pairwise ApartNames := by
  induction properties generalizing draft done with
  | nil => rwa [List.append_nil]
  | cons p properties ih =>
    obtain ⟨next, hadd, hrest⟩ := addAll_cons_eq_ok_iff.mp hall
    -- Without maps among the values no map of the tree has a parent.
    have hparent : ∀ before ∈ draft.parented, ¬ before <+: pathOf p.1 := by
      intro before hbefore
      obtain ⟨q, hq, hmap, -⟩ := h.parented before hbefore
      exact absurd hmap (leaves q (List.mem_append_left _ hq))
    have hp : ∀ q ∈ done, Apart (pathOf q.1) (pathOf p.1) := by
      intro q hq
      have hne : q.1 ≠ p.1 := by
        have hkeys := List.pairwise_append.mp (List.pairwise_map.mp distinct)
        exact hkeys.2.2 q hq p List.mem_cons_self
      exact ⟨h.not_below_of_add hparent hadd hq hne (leaves q (List.mem_append_left _ hq)),
        h.not_above_of_add hparent hadd hq hne⟩
    have hnext : (done ++ [p]).Pairwise ApartNames :=
      List.pairwise_append.mpr ⟨hpart, List.pairwise_singleton _ p, fun q hq r hr =>
        List.mem_singleton.mp hr ▸ hp q hq⟩
    rw [List.append_cons] at leaves distinct ⊢
    exact ih (h.of_add hp hadd) leaves distinct hnext hrest

end

end Draft

/-! ### Accepted properties -/

/-- A tree can be built from properties. -/
def Accepted (properties : Entries Value) : Prop := ∃ source, ofFlat properties = .ok source

theorem ofFlat_eq_ok_iff {properties : Entries Value} {source : PropertySource} :
    ofFlat properties = .ok source ↔
      ∃ draft, Draft.addAll {} properties = .ok draft ∧ source = ⟨draft.root⟩ := by
  unfold ofFlat Draft.addAll
  cases properties.foldlM (fun (draft : Draft) p => draft.add p.1 p.2) {} with
  | error e => exact ⟨nofun, nofun⟩
  | ok draft => simp [Except.map, eq_comm]

section

variable {properties order : Entries Value}

theorem isName_of_accepted (h : Accepted properties) : ∀ p ∈ properties, IsName p.1 := by
  obtain ⟨source, hsource⟩ := h
  obtain ⟨draft, hall, -⟩ := ofFlat_eq_ok_iff.mp hsource
  exact Draft.isName_of_addAll hall

/-- The tree that is built from properties that are apart holds them. -/
theorem holds_of_ofFlat {source : PropertySource} (hpart : properties.Pairwise ApartNames)
    (h : ofFlat properties = .ok source) :
    ∃ draft : Draft, draft.Holds properties ∧ source = ⟨draft.root⟩ := by
  obtain ⟨draft, hall, rfl⟩ := ofFlat_eq_ok_iff.mp h
  obtain ⟨draft', hall', hholds⟩ :=
    Draft.holds_empty.addAll (Draft.isName_of_addAll hall) (by rwa [List.nil_append])
  obtain rfl : draft' = draft := Except.ok.inj (hall'.symm.trans hall)
  exact ⟨draft', hholds, rfl⟩

/-- Properties that are apart are accepted if each has a name. -/
theorem accepted_iff_of_pairwise (hpart : properties.Pairwise ApartNames) :
    Accepted properties ↔ ∀ p ∈ properties, IsName p.1 := by
  refine ⟨isName_of_accepted, fun hnames => ?_⟩
  obtain ⟨draft, hall, -⟩ :=
    Draft.holds_empty.addAll hnames (by rwa [List.nil_append])
  exact ⟨⟨draft.root⟩, ofFlat_eq_ok_iff.mpr ⟨draft, hall, rfl⟩⟩

/-- The order of properties that are apart does not matter. -/
theorem accepted_perm_iff (hpart : properties.Pairwise ApartNames) (hperm : order.Perm properties) :
    Accepted order ↔ Accepted properties := by
  have horder : order.Pairwise ApartNames := hpart.perm hperm.symm fun h => h.symm
  rw [accepted_iff_of_pairwise hpart, accepted_iff_of_pairwise horder]
  exact ⟨fun h p hp => h p (hperm.mem_iff.mpr hp), fun h p hp => h p (hperm.mem_iff.mp hp)⟩

/-! ### Values that are no maps -/

/-- Properties whose values are no maps are accepted if they are apart, and only then. -/
theorem accepted_iff_of_leaves (distinct : properties.keys.Nodup)
    (leaves : ∀ p ∈ properties, ¬ p.2.IsMap) :
    Accepted properties ↔ (∀ p ∈ properties, IsName p.1) ∧ properties.Pairwise ApartNames := by
  constructor
  · rintro ⟨source, hsource⟩
    obtain ⟨draft, hall, -⟩ := ofFlat_eq_ok_iff.mp hsource
    exact ⟨Draft.isName_of_addAll hall,
      Draft.holds_empty.pairwise_of_addAll leaves distinct List.Pairwise.nil hall⟩
  · rintro ⟨hnames, hpart⟩
    exact (accepted_iff_of_pairwise hpart).mpr hnames

/-- **Properties whose values are no maps are accepted, in whatever order, exactly if each has a name
and none is on the way to another one. What is read then is the value under a name, a map on the way
to one, and nothing elsewhere.** -/
theorem ofFlat_reads_leaves (distinct : properties.keys.Nodup)
    (leaves : ∀ p ∈ properties, ¬ p.2.IsMap) :
    (Accepted properties ↔
      (∀ name ∈ properties.keys, IsName name) ∧ Separate properties.keys) ∧
    (∀ order : Entries Value, order.Perm properties → (Accepted order ↔ Accepted properties)) ∧
    ∀ source, ofFlat properties = .ok source → ∀ path,
      (∀ value, (path, value) ∈ properties → source.get? path = some value) ∧
      ((∃ name ∈ properties.keys, Above path name) →
        ∃ inner, source.get? path = some (.map inner)) ∧
      (path ∉ properties.keys → (∀ name ∈ properties.keys, ¬ Above path name) →
        source.get? path = none) := by
  have haccepted := accepted_iff_of_leaves distinct leaves
  refine ⟨?_, fun order hperm => ?_, fun source hsource path => ?_⟩
  · have hnames : (∀ name ∈ properties.keys, IsName name) ↔ ∀ p ∈ properties, IsName p.1 :=
      List.forall_mem_map
    rw [haccepted, hnames, pairwise_apartNames_iff distinct]
  · have horder := accepted_iff_of_leaves (Entries.nodup_keys_of_perm hperm distinct)
      fun p hp => leaves p (hperm.mem_iff.mp hp)
    constructor
    · exact fun h => (accepted_perm_iff (horder.mp h).2 hperm.symm).mpr h
    · exact fun h => (accepted_perm_iff (haccepted.mp h).2 hperm).mpr h
  · obtain ⟨draft, h, rfl⟩ := holds_of_ofFlat (haccepted.mp ⟨source, hsource⟩).2 hsource
    refine ⟨fun value hvalue => ?_, ?_, fun hkey habove => ?_⟩
    · have hbelow := h.below _ hvalue []
      rwa [List.append_nil] at hbelow
    · rintro ⟨name, hname, hle, hne⟩
      obtain ⟨p, hp, rfl⟩ := List.mem_map.mp hname
      exact h.above p hp _ hle hne
    · refine h.at?_eq_none leaves (pathOf_ne_nil path) fun p hp hle => ?_
      have hmem : p.1 ∈ properties.keys := List.mem_map_of_mem hp
      exact habove p.1 hmem ⟨hle, fun heq => hkey (eq_of_pathOf_eq heq ▸ hmem)⟩

/-- Without maps, keys with an empty segment and the key for a parent are read like any other. -/
theorem ofFlat_reads_leaves_mixed :
    let properties : Entries Value :=
      [("1", .list [.map []]), ("a.b", .null), ("a..c", .text "x"), ("a.__proto__", .bool true)]
    properties.keys.Nodup ∧ (∀ p ∈ properties, ¬ p.2.IsMap) ∧
      ∃ source, ofFlat properties = .ok source ∧ source.get? "a.__proto__" = some (.bool true) ∧
        (∃ inner, source.get? "a." = some (.map inner)) ∧ source.get? "constructor" = none := by
  intro properties
  have distinct : properties.keys.Nodup := by decide +kernel
  have leaves : ∀ p ∈ properties, ¬ p.2.IsMap := by decide +kernel
  obtain ⟨haccepted, -, hreads⟩ := ofFlat_reads_leaves distinct leaves
  obtain ⟨source, hsource⟩ := haccepted.mpr ⟨by decide +kernel, by decide +kernel⟩
  refine ⟨distinct, leaves, source, hsource, ?_, ?_, ?_⟩
  · exact (hreads source hsource _).1 _ (by simp [properties])
  · exact (hreads source hsource _).2.1 ⟨"a..c", by decide +kernel, by decide +kernel⟩
  · exact (hreads source hsource _).2.2 (by decide +kernel) (by decide +kernel)

/-! ### Values that are maps -/

/-- Of two names one of which is on the way to the other, the one on the way cannot come second. -/
theorem not_accepted_of_above {p q : String × Value} (habove : Above p.1 q.1)
    (rest : Entries Value) : ¬ Accepted (q :: p :: rest) := by
  rintro ⟨source, hsource⟩
  obtain ⟨draft, hall, -⟩ := ofFlat_eq_ok_iff.mp hsource
  obtain ⟨first, hq, hrest⟩ := Draft.addAll_cons_eq_ok_iff.mp hall
  obtain ⟨second, hp, -⟩ := Draft.addAll_cons_eq_ok_iff.mp hrest
  have h : first.Holds [q] :=
    Draft.holds_empty.of_add (fun r hr => absurd hr List.not_mem_nil) hq
  have hparent : ∀ before ∈ first.parented, ¬ before <+: pathOf p.1 := by
    intro before hbefore hle
    obtain ⟨r, hr, -, hunder⟩ := h.parented before hbefore
    obtain rfl := List.mem_singleton.mp hr
    exact habove.2 (habove.1.eq_of_length_le (hunder.trans hle).length_le)
  have hne : q.1 ≠ p.1 := fun heq => habove.2 (congrArg pathOf heq).symm
  exact h.not_above_of_add hparent hp List.mem_cons_self hne habove.1

/-- No value that is configured is lost: whatever is no map within a value, the value itself
included, is read at its path. And whether a tree can be built does not depend on the order. -/
structure KeepsValues (properties : Entries Value) : Prop where
  reads : ∀ source, ofFlat properties = .ok source → ∀ name value, (name, value) ∈ properties →
    ∀ path leaf, (∀ key ∈ path, '.' ∉ key.toList) → value.at? path = some leaf → ¬ leaf.IsMap →
      source.get? (Text.joined '.' (name :: path)) = some leaf
  anyOrder : ∀ order : Entries Value, order.Perm properties →
    (Accepted order ↔ Accepted properties)

theorem keepsValues_of_pairwise (hpart : properties.Pairwise ApartNames) :
    KeepsValues properties where
  reads := by
    intro source hsource name value hmem path leaf hpath hleaf _
    obtain ⟨draft, h, rfl⟩ := holds_of_ofFlat hpart hsource
    have hbelow := h.below _ hmem path
    rw [← pathOf_joined name hpath] at hbelow
    exact hbelow.trans hleaf
  anyOrder := fun _ hperm => accepted_perm_iff hpart hperm

/-- **No value that is configured is lost, and the order does not matter, exactly if no name is on the
way to another one, or the properties are refused in every order. In the first case they are accepted
if each has a name.** -/
theorem keepsValues_iff (distinct : properties.keys.Nodup) :
    (KeepsValues properties ↔ Separate properties.keys ∨
      ∀ order : Entries Value, order.Perm properties → ¬ Accepted order) ∧
    (Separate properties.keys →
      (Accepted properties ↔ ∀ name ∈ properties.keys, IsName name)) := by
  refine ⟨⟨fun h => ?_, ?_⟩, fun hseparate => ?_⟩
  · refine Classical.or_iff_not_imp_right.mpr fun hsome => ?_
    obtain ⟨order, hperm, haccepted⟩ :
        ∃ order : Entries Value, order.Perm properties ∧ Accepted order := by
      simpa using hsome
    intro name hname other hother habove
    obtain ⟨p, hp, rfl⟩ := List.mem_map.mp hname
    obtain ⟨q, hq, rfl⟩ := List.mem_map.mp hother
    have hne : p ≠ q := fun heq => habove.2 (congrArg (fun p => pathOf p.1) heq)
    -- The order in which the name on the way comes second.
    have hp' : p ∈ properties.erase q := (List.mem_erase_of_ne hne).mpr hp
    have hlater : (q :: p :: (properties.erase q).erase p).Perm properties :=
      ((List.perm_cons_erase hq).trans ((List.perm_cons_erase hp').cons q)).symm
    refine not_accepted_of_above habove _ ((h.anyOrder _ hlater).mpr ?_)
    exact (h.anyOrder order hperm).mp haccepted
  · rintro (hseparate | hrefused)
    · exact keepsValues_of_pairwise ((pairwise_apartNames_iff distinct).mpr hseparate)
    · refine ⟨fun source hsource => ?_, fun order hperm => ?_⟩
      · exact absurd ⟨source, hsource⟩ (hrefused properties (List.Perm.refl _))
      · exact iff_of_false (hrefused order hperm) (hrefused properties (List.Perm.refl _))
  · rw [accepted_iff_of_pairwise ((pairwise_apartNames_iff distinct).mpr hseparate)]
    exact List.forall_mem_map.symm

end

/-- A map beside another name is kept in every order. -/
theorem keepsValues_beside :
    let properties : Entries Value := [("a", .map [("b", .null)]), ("a b.c", .bool true)]
    properties.keys.Nodup ∧ Separate properties.keys ∧ KeepsValues properties ∧
      Accepted properties := by
  intro properties
  have distinct : properties.keys.Nodup := by decide +kernel
  have separate : Separate properties.keys := by decide +kernel
  obtain ⟨hkeeps, haccepted⟩ := keepsValues_iff distinct
  exact ⟨distinct, separate, hkeeps.mpr (.inl separate),
    (haccepted separate).mpr (by decide +kernel)⟩

/-- A name that leads to a value within a map replaces that value. In the other order the map is
refused. -/
theorem ofFlat_loses_value :
    let inMap : String × Value := ("a", .map [("b", .num (.ofNat 1))])
    let behind : String × Value := ("a.b", .num (.ofNat 2))
    (∃ source, ofFlat [inMap, behind] = .ok source ∧
      source.get? "a.b" = some (.num (.ofNat 2))) ∧
    ¬ Accepted [behind, inMap] ∧ ¬ KeepsValues [inMap, behind] := by
  intro inMap behind
  have hread : ((ofFlat [inMap, behind]).toOption.bind (·.get? "a.b")) =
      some (.num (.ofNat 2)) := by decide +kernel
  obtain ⟨source, hsource, hget⟩ : ∃ source, ofFlat [inMap, behind] = .ok source ∧
      source.get? "a.b" = some (.num (.ofNat 2)) := by
    cases hresult : ofFlat [inMap, behind] with
    | error e =>
      rw [hresult] at hread
      cases hread
    | ok source =>
      rw [hresult] at hread
      exact ⟨source, rfl, hread⟩
  refine ⟨⟨source, hsource, hget⟩, not_accepted_of_above (by decide +kernel) [], fun h => ?_⟩
  have hvalue := h.reads source hsource "a" _ List.mem_cons_self ["b"] (.num (.ofNat 1))
    (by decide) (by decide +kernel) (by decide)
  have hname : Text.joined '.' ["a", "b"] = "a.b" := by decide +kernel
  rw [hname, hget] at hvalue
  exact absurd hvalue (by decide +kernel)

end PropertySource

end OAuthClient
