import OAuthClient.Proofs.KeyOrder
import OAuthClient.Proofs.PropertySource.Draft

/-!
# Leaves

The leaves of a tree are its values that are no maps, each at its path, in the order of the tree. If
no map below the root is empty, setting them one after the other makes the tree.

## Main statements

* `Value.leaves`, `Value.leavesIn`: the leaves of a value and of entries.
* `Value.Regular`: a value whose maps have entries in key order, under keys that can be written.
* `PropertySource.PutAll`: leaves are set one after the other.
* `PropertySource.putAll_leaves`: setting the leaves of a value under a key gives the key that value.
-/

namespace OAuthClient

namespace Value

/-! ### The leaves of a value -/

/-- Leaves that are found under a key. -/
def under (key : String) (leaves : List (List String × Value)) : List (List String × Value) :=
  leaves.map fun leaf => (key :: leaf.1, leaf.2)

mutual

/-- The leaves of a value, each with the path to it. -/
def leaves : Value → List (List String × Value)
  | .map es => leavesIn es
  | v => [([], v)]

/-- The leaves of entries. -/
def leavesIn : List (String × Value) → List (List String × Value)
  | [] => []
  | (key, v) :: es => under key (leaves v) ++ leavesIn es

end

theorem leaves_map (es : Entries Value) : (Value.map es).leaves = leavesIn es := by
  rw [leaves]

theorem leaves_of_not_isMap {v : Value} (h : ¬ v.IsMap) : v.leaves = [([], v)] := by
  rw [leaves]
  exact fun es heq => h ⟨es, heq⟩

theorem leavesIn_cons (e : String × Value) (es : Entries Value) :
    leavesIn (e :: es) = under e.1 e.2.leaves ++ leavesIn es := by
  rw [leavesIn]

theorem leavesIn_eq_flatMap (es : Entries Value) :
    leavesIn es = es.flatMap fun e => under e.1 e.2.leaves := by
  induction es with
  | nil => rw [leavesIn, List.flatMap_nil]
  | cons e es ih => rw [leavesIn_cons, ih, List.flatMap_cons]

theorem mem_under {key : String} {leaves : List (List String × Value)}
    {leaf : List String × Value} :
    leaf ∈ under key leaves ↔ ∃ inner ∈ leaves, leaf = (key :: inner.1, inner.2) := by
  simp [under, eq_comm]

theorem mem_leavesIn {es : Entries Value} {leaf : List String × Value} : leaf ∈ leavesIn es ↔
    ∃ e ∈ es, ∃ inner ∈ e.2.leaves, leaf = (e.1 :: inner.1, inner.2) := by
  simp only [leavesIn_eq_flatMap, List.mem_flatMap, mem_under]

/-! ### Regular values -/

/-- A key that can be written as a segment of a name. -/
def IsKey (key : String) : Prop := key ≠ "" ∧ '.' ∉ key.toList

instance (key : String) : Decidable (IsKey key) := inferInstanceAs (Decidable (_ ∧ _))

/-- A value that is determined by its leaves: its maps are not empty, and their entries are in key
order, under keys that can be written. -/
inductive Regular : Value → Prop where
  | leaf {v : Value} (not_isMap : ¬ v.IsMap) : Regular v
  | map {es : Entries Value} (ne_nil : es ≠ []) (inKeyOrder : es.InKeyOrder)
      (keys : ∀ e ∈ es, IsKey e.1) (values : ∀ e ∈ es, Regular e.2) : Regular (.map es)

/-- A regular value has a leaf. -/
theorem Regular.leaves_ne_nil {v : Value} (h : v.Regular) : v.leaves ≠ [] := by
  induction h with
  | leaf hmap => simp [leaves_of_not_isMap hmap]
  | @map es hne _ _ _ ih =>
    obtain ⟨e, es, rfl⟩ := List.exists_cons_of_ne_nil hne
    have hhead : e.2.leaves ≠ [] := ih e List.mem_cons_self
    simp [leaves_map, leavesIn_cons, under, hhead]

/-- The leaves of a regular value are no maps, and the keys on their paths can be written. -/
theorem Regular.of_mem_leaves {v : Value} (h : v.Regular) :
    ∀ leaf ∈ v.leaves, ¬ leaf.2.IsMap ∧ ∀ key ∈ leaf.1, IsKey key := by
  induction h with
  | leaf hmap =>
    intro leaf hleaf
    rw [leaves_of_not_isMap hmap, List.mem_singleton] at hleaf
    subst hleaf
    exact ⟨hmap, fun key hkey => absurd hkey List.not_mem_nil⟩
  | map _ _ hkeys _ ih =>
    intro leaf hleaf
    rw [leaves_map] at hleaf
    obtain ⟨e, he, inner, hinner, rfl⟩ := mem_leavesIn.mp hleaf
    obtain ⟨hvalue, hpath⟩ := ih e he inner hinner
    exact ⟨hvalue, List.forall_mem_cons.mpr ⟨hkeys e he, hpath⟩⟩

/-- Leaves under distinct keys are at different paths if those under each key are. -/
theorem pairwise_leavesIn {es : Entries Value} (distinct : es.keys.Nodup)
    (h : ∀ e ∈ es, e.2.leaves.Pairwise (·.1 ≠ ·.1)) : (leavesIn es).Pairwise (·.1 ≠ ·.1) := by
  rw [leavesIn_eq_flatMap]
  refine List.pairwise_flatMap.mpr ⟨fun e he => ?_, ?_⟩
  · refine List.pairwise_map.mpr ((h e he).imp fun hne heq => hne ?_)
    exact (List.cons.inj heq).2
  · refine (List.pairwise_map.mp distinct).imp fun hne leaf hleaf other hother heq => ?_
    obtain ⟨inner, -, rfl⟩ := mem_under.mp hleaf
    obtain ⟨inner', -, rfl⟩ := mem_under.mp hother
    exact hne (List.cons.inj heq).1

/-- The leaves of a regular value are at different paths. -/
theorem Regular.pairwise_leaves {v : Value} (h : v.Regular) :
    v.leaves.Pairwise (·.1 ≠ ·.1) := by
  induction h with
  | leaf hmap =>
    rw [leaves_of_not_isMap hmap]
    exact List.pairwise_singleton _ _
  | map _ horder _ _ ih =>
    rw [leaves_map]
    exact pairwise_leavesIn horder.distinct ih

end Value

namespace PropertySource

open Value (under leavesIn)

/-! ### Setting leaves -/

/-- Setting leaves one after the other in the first entries gives the second ones. -/
inductive PutAll : Entries Value → List (List String × Value) → Entries Value → Prop where
  | nil (es : Entries Value) : PutAll es [] es
  | cons {es next es' : Entries Value} {segments : List String} {leaf : String} {value : Value}
      {leaves : List (List String × Value)} (head : put es segments leaf value = .ok next)
      (tail : PutAll next leaves es') : PutAll es ((segments ++ [leaf], value) :: leaves) es'

theorem PutAll.append {es next es' : Entries Value} {leaves more : List (List String × Value)}
    (h : PutAll es leaves next) (hmore : PutAll next more es') : PutAll es (leaves ++ more) es' := by
  induction h with
  | nil => exact hmore
  | cons head _ ih => exact .cons head (ih hmore)

/-- Leaves that are set in the map that a key leads to are set under that key. -/
theorem PutAll.under {inner inner' : Entries Value} {leaves : List (List String × Value)}
    (h : PutAll inner leaves inner') (hne : leaves ≠ []) {es : Entries Value} {key : String}
    (hinner : MapUnder es key inner) : PutAll es (under key leaves) (es.set key (.map inner')) := by
  induction h generalizing es with
  | nil => exact absurd rfl hne
  | @cons inner next inner' segments leaf value leaves head tail ih =>
    have hput : put es (key :: segments) leaf value = .ok (es.set key (.map next)) :=
      put_cons_eq_ok_iff.mpr ⟨inner, next, hinner, head, rfl⟩
    refine .cons hput ?_
    by_cases hrest : leaves = []
    · subst hrest
      cases tail
      exact .nil _
    · have hnext : MapUnder (es.set key (.map next)) key next := .inl (Entries.get?_set_self ..)
      have htail := ih hrest hnext
      rwa [Entries.set_set] at htail

/-- Setting the leaves of entries gives the keys their values one after the other if it does so for
each entry. -/
theorem putAll_leavesIn {es acc : Entries Value} (distinct : es.keys.Nodup)
    (new : ∀ key ∈ es.keys, key ∉ acc.keys)
    (h : ∀ e ∈ es, ∀ acc : Entries Value, e.1 ∉ acc.keys →
      PutAll acc (under e.1 e.2.leaves) (acc.set e.1 e.2)) :
    PutAll acc (leavesIn es) (es.foldl (fun (acc : Entries Value) e => acc.set e.1 e.2) acc) := by
  induction es generalizing acc with
  | nil =>
    rw [leavesIn]
    exact .nil acc
  | cons e es ih =>
    obtain ⟨hhead, htail⟩ := List.nodup_cons.mp distinct
    rw [Value.leavesIn_cons]
    refine (h e List.mem_cons_self acc (new e.1 List.mem_cons_self)).append (ih htail ?_ ?_)
    · intro key hkey hmem
      rcases (Entries.mem_keys_set acc e.1 e.2 key).mp hmem with rfl | hacc
      · exact hhead hkey
      · exact new key (List.mem_cons_of_mem e.1 hkey) hacc
    · exact fun e' he' => h e' (List.mem_cons_of_mem e he')

/-- Setting the leaves of a regular value under a new key gives the key that value. -/
theorem putAll_leaves {v : Value} (h : v.Regular) {es : Entries Value} {key : String}
    (new : key ∉ es.keys) : PutAll es (under key v.leaves) (es.set key v) := by
  have hnone : es.get? key = none := (Entries.get?_eq_none_iff es key).mpr new
  induction h generalizing es key with
  | @leaf v hmap =>
    rw [Value.leaves_of_not_isMap hmap]
    have hput : put es [] key v = .ok (es.set key v) :=
      put_nil_eq_ok_iff.mpr ⟨fun inner => by rw [hnone]; exact nofun, rfl⟩
    exact .cons hput (.nil _)
  | @map inner hne horder hkeys hvalues ih =>
    have hregular : (Value.map inner).Regular := .map hne horder hkeys hvalues
    have hinner : PutAll [] (leavesIn inner) (Entries.ofList inner) :=
      putAll_leavesIn horder.distinct (fun _ _ => List.not_mem_nil) fun e he acc hacc =>
        ih e he hacc ((Entries.get?_eq_none_iff acc e.1).mpr hacc)
    rw [Entries.ofList_of_inKeyOrder horder] at hinner
    have hleaves : leavesIn inner ≠ [] := Value.leaves_map inner ▸ hregular.leaves_ne_nil
    rw [Value.leaves_map]
    exact hinner.under hleaves (.inr ⟨hnone, rfl⟩)

end PropertySource

end OAuthClient
