import OAuthClient.PropertySource

/-!
# Setting a leaf

A leaf is set at a path of keys. Its value is then found there, the way to it leads through maps,
and nothing else changes. It can be set if nothing but maps is in the way and if what it would
replace is no map.

## Main statements

* `PropertySource.Apart`: neither of two paths leads on from the other.
* `PropertySource.at?_put_below`, `PropertySource.at?_put_above`, `PropertySource.at?_put_of_apart`:
  what is found at, on the way to, and apart from a leaf that has been set.
* `PropertySource.exists_put_iff`: when a leaf can be set.
-/

namespace OAuthClient

namespace Value

/-- A value is a map. -/
def IsMap (v : Value) : Prop := ∃ es, v = .map es

theorem isMap_map (es : Entries Value) : (Value.map es).IsMap := ⟨es, rfl⟩

instance (v : Value) : Decidable v.IsMap :=
  match v with
  | map es => isTrue (isMap_map es)
  | null | bool _ | num _ | text _ | list _ | function _ => isFalse nofun

theorem at?_map_cons (es : Entries Value) (key : String) (path : List String) :
    (Value.map es).at? (key :: path) = (es.get? key).bind (at? · path) := rfl

/-- A path leads nowhere from a value that is no map. -/
theorem at?_cons_of_not_isMap {v : Value} (h : ¬ v.IsMap) (key : String) (path : List String) :
    v.at? (key :: path) = none := by
  cases v with
  | map es => exact absurd (isMap_map es) h
  | _ => rfl

end Value

namespace PropertySource

/-! ### Paths -/

/-- Neither of two paths leads on from the other. -/
def Apart (path other : List String) : Prop := ¬ path <+: other ∧ ¬ other <+: path

theorem Apart.symm {path other : List String} (h : Apart path other) : Apart other path :=
  ⟨h.2, h.1⟩

theorem Apart.ne_nil {path other : List String} (h : Apart path other) : path ≠ [] := by
  rintro rfl
  exact h.1 List.nil_prefix

theorem apart_cons_iff {key : String} {path other : List String} :
    Apart (key :: path) (key :: other) ↔ Apart path other := by
  simp [Apart, List.cons_prefix_cons]

/-- What leads on from a path that is apart from another one is apart from it as well. -/
theorem Apart.append {path other : List String} (h : Apart path other) (more : List String) :
    Apart (path ++ more) other := by
  refine ⟨fun hprefix => h.1 ((List.prefix_append path more).trans hprefix), fun hprefix => ?_⟩
  rcases List.prefix_or_prefix_of_prefix hprefix (List.prefix_append path more) with hle | hle
  · exact h.2 hle
  · exact h.1 hle

/-- A path on the way to a key of a map leads to that map or to one before it. -/
theorem prefix_of_prefix_append_singleton {path other : List String} {leaf : String}
    (h : path <+: other ++ [leaf]) (hne : path ≠ other ++ [leaf]) : path <+: other := by
  rcases List.prefix_concat_iff.mp h with heq | hprefix
  · exact absurd heq hne
  · exact hprefix

/-! ### What setting a leaf does -/

/-- The map that a key leads to: the one under the key, or an empty one if there is nothing. -/
def MapUnder (es : Entries Value) (key : String) (inner : Entries Value) : Prop :=
  es.get? key = some (.map inner) ∨ es.get? key = none ∧ inner = []

/-- Beyond a key, what is found is what is found in the map that it leads to. -/
theorem MapUnder.at?_cons {es inner : Entries Value} {key : String} (h : MapUnder es key inner)
    {path : List String} (hne : path ≠ []) :
    (Value.map es).at? (key :: path) = (Value.map inner).at? path := by
  rw [Value.at?_map_cons]
  rcases h with hmap | ⟨hnone, rfl⟩
  · rw [hmap]
    rfl
  · obtain ⟨key', path, rfl⟩ := List.exists_cons_of_ne_nil hne
    rw [hnone]
    rfl

theorem put_nil_eq_ok_iff {es es' : Entries Value} {leaf : String} {value : Value} :
    put es [] leaf value = .ok es' ↔
      (∀ inner, es.get? leaf ≠ some (.map inner)) ∧ es' = es.set leaf value := by
  unfold put
  constructor
  · intro h
    split at h
    · cases h
    · next hmap =>
      cases h
      exact ⟨hmap, rfl⟩
  · rintro ⟨hmap, rfl⟩
    split
    · next inner hinner => exact absurd hinner (hmap inner)
    · rfl

theorem put_cons_eq_ok_iff {es es' : Entries Value} {segment leaf : String}
    {segments : List String} {value : Value} :
    put es (segment :: segments) leaf value = .ok es' ↔ ∃ inner inner',
      MapUnder es segment inner ∧ put inner segments leaf value = .ok inner' ∧
        es' = es.set segment (.map inner') := by
  have hmap : ∀ {inner : Entries Value},
      (put inner segments leaf value).map (fun inner => es.set segment (.map inner)) = .ok es' ↔
        ∃ inner', put inner segments leaf value = .ok inner' ∧
          es' = es.set segment (.map inner') := by
    intro inner
    cases put inner segments leaf value with
    | error cause => simp [Except.map]
    | ok inner' => simp [Except.map, eq_comm]
  rw [put]
  cases hsegment : es.get? segment with
  | none => simp [hmap, MapUnder, hsegment]
  | some v =>
    cases v with
    | map inner => simp [hmap, MapUnder, hsegment]
    | _ => simp [MapUnder, hsegment]

/-- The value of a leaf is found at its path, and what is in it beyond that. -/
theorem at?_put_below {es es' : Entries Value} {segments : List String} {leaf : String}
    {value : Value} (h : put es segments leaf value = .ok es') (path : List String) :
    (Value.map es').at? (segments ++ leaf :: path) = value.at? path := by
  induction segments generalizing es es' with
  | nil =>
    obtain ⟨-, rfl⟩ := put_nil_eq_ok_iff.mp h
    rw [List.nil_append, Value.at?_map_cons, Entries.get?_set_self]
    rfl
  | cons segment segments ih =>
    obtain ⟨inner, inner', -, hput, rfl⟩ := put_cons_eq_ok_iff.mp h
    rw [List.cons_append, Value.at?_map_cons, Entries.get?_set_self]
    exact ih hput

/-- The way to a leaf leads through maps. -/
theorem at?_put_above {es es' : Entries Value} {segments : List String} {leaf : String}
    {value : Value} (h : put es segments leaf value = .ok es') {path : List String}
    (hpath : path <+: segments) : ∃ inner, (Value.map es').at? path = some (.map inner) := by
  induction segments generalizing es es' path with
  | nil =>
    obtain rfl := List.prefix_nil.mp hpath
    exact ⟨es', rfl⟩
  | cons segment segments ih =>
    obtain ⟨inner, inner', -, hput, rfl⟩ := put_cons_eq_ok_iff.mp h
    cases path with
    | nil => exact ⟨_, rfl⟩
    | cons key path =>
      obtain ⟨rfl, hrest⟩ := List.cons_prefix_cons.mp hpath
      rw [Value.at?_map_cons, Entries.get?_set_self]
      exact ih hput hrest

/-- What is apart from a leaf stays as it was. -/
theorem at?_put_of_apart {es es' : Entries Value} {segments : List String} {leaf : String}
    {value : Value} (h : put es segments leaf value = .ok es') {path : List String}
    (hpath : Apart path (segments ++ [leaf])) :
    (Value.map es').at? path = (Value.map es).at? path := by
  induction segments generalizing es es' path with
  | nil =>
    obtain ⟨-, rfl⟩ := put_nil_eq_ok_iff.mp h
    obtain ⟨key, path, rfl⟩ := List.exists_cons_of_ne_nil hpath.ne_nil
    have hne : key ≠ leaf := by
      rintro rfl
      exact hpath.2 (List.prefix_append [key] path)
    rw [Value.at?_map_cons, Value.at?_map_cons, Entries.get?_set_of_ne es value hne]
  | cons segment segments ih =>
    obtain ⟨inner, inner', hinner, hput, rfl⟩ := put_cons_eq_ok_iff.mp h
    obtain ⟨key, path, rfl⟩ := List.exists_cons_of_ne_nil hpath.ne_nil
    by_cases hkey : key = segment
    · subst hkey
      have hrest : Apart path (segments ++ [leaf]) := apart_cons_iff.mp hpath
      rw [hinner.at?_cons hrest.ne_nil, Value.at?_map_cons, Entries.get?_set_self]
      exact ih hput hrest
    · rw [Value.at?_map_cons, Value.at?_map_cons, Entries.get?_set_of_ne es _ hkey]

/-! ### When a leaf can be set -/

/-- Nothing but maps is found along a path. -/
def MapsAlong (es : Entries Value) (segments : List String) : Prop :=
  ∀ path, path <+: segments → ∀ v, (Value.map es).at? path = some v → v.IsMap

theorem mapsAlong_nil (es : Entries Value) : MapsAlong es [] := by
  intro path hpath v hv
  obtain rfl := List.prefix_nil.mp hpath
  cases hv
  exact Value.isMap_map es

theorem mapsAlong_cons_iff {es : Entries Value} {segment : String} {segments : List String} :
    MapsAlong es (segment :: segments) ↔
      ∃ inner, MapUnder es segment inner ∧ MapsAlong inner segments := by
  constructor
  · intro h
    obtain ⟨inner, hinner⟩ : ∃ inner, MapUnder es segment inner := by
      cases hsegment : es.get? segment with
      | none => exact ⟨[], .inr ⟨hsegment, rfl⟩⟩
      | some v =>
        have hfound : (Value.map es).at? [segment] = some v := by
          rw [Value.at?_map_cons, hsegment]
          rfl
        obtain ⟨inner, rfl⟩ := h [segment] (List.prefix_append [segment] segments) v hfound
        exact ⟨inner, .inl hsegment⟩
    refine ⟨inner, hinner, fun path hpath v hv => ?_⟩
    by_cases hne : path = []
    · subst hne
      cases hv
      exact Value.isMap_map inner
    · rw [← hinner.at?_cons hne] at hv
      exact h (segment :: path) (List.cons_prefix_cons.mpr ⟨rfl, hpath⟩) v hv
  · rintro ⟨inner, hinner, h⟩ path hpath v hv
    cases path with
    | nil =>
      cases hv
      exact Value.isMap_map es
    | cons key path =>
      obtain ⟨rfl, hrest⟩ := List.cons_prefix_cons.mp hpath
      by_cases hne : path = []
      · subst hne
        rw [Value.at?_map_cons] at hv
        rcases hinner with hmap | ⟨hnone, -⟩
        · rw [hmap] at hv
          cases hv
          exact Value.isMap_map inner
        · rw [hnone] at hv
          cases hv
      · rw [hinner.at?_cons hne] at hv
        exact h path hrest v hv

/-- A leaf can be set if nothing but maps is in the way, and if what it would replace is no map. -/
theorem exists_put_iff {es : Entries Value} {segments : List String} {leaf : String}
    {value : Value} : (∃ es', put es segments leaf value = .ok es') ↔
      MapsAlong es segments ∧
        ∀ inner, (Value.map es).at? (segments ++ [leaf]) ≠ some (.map inner) := by
  induction segments generalizing es with
  | nil =>
    have hleaf : (Value.map es).at? ([] ++ [leaf]) = es.get? leaf := by
      rw [List.nil_append, Value.at?_map_cons]
      cases es.get? leaf with
      | none => rfl
      | some v => rfl
    simp only [put_nil_eq_ok_iff, exists_and_left, exists_eq, and_true, hleaf]
    exact (and_iff_right (mapsAlong_nil es)).symm
  | cons segment segments ih =>
    have hbeyond : ∀ {inner : Entries Value}, MapUnder es segment inner →
        (Value.map es).at? (segment :: segments ++ [leaf]) =
          (Value.map inner).at? (segments ++ [leaf]) :=
      fun hinner => hinner.at?_cons (List.append_ne_nil_of_right_ne_nil _ (List.cons_ne_nil _ _))
    rw [mapsAlong_cons_iff]
    constructor
    · rintro ⟨es', h⟩
      obtain ⟨inner, inner', hinner, hput, -⟩ := put_cons_eq_ok_iff.mp h
      obtain ⟨hway, hleaf⟩ := ih.mp ⟨inner', hput⟩
      exact ⟨⟨inner, hinner, hway⟩, hbeyond hinner ▸ hleaf⟩
    · rintro ⟨⟨inner, hinner, hway⟩, hleaf⟩
      obtain ⟨inner', hput⟩ := ih.mpr ⟨hway, hbeyond hinner ▸ hleaf⟩
      exact ⟨_, put_cons_eq_ok_iff.mpr ⟨inner, inner', hinner, hput, rfl⟩⟩

end PropertySource

end OAuthClient
