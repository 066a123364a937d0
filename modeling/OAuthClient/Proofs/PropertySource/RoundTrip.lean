import OAuthClient.Condition
import OAuthClient.Proofs.PropertySource.Flat
import OAuthClient.Proofs.PropertySource.Leaves

/-!
# The flat form of a tree

The flat form of a tree lists its leaves under their dotted names. As the entries of a map these
come in key order, in which an array index at the root goes ahead of the names that lead into maps.
The tree that is built from them is nevertheless the one that was listed.

## Main statements

* `PropertySource.flatten`: the flat form; `PropertySource.Regular` says which trees it determines.
* `PropertySource.Regular.ofList_flatten`: in key order it is the flat form of a reordered tree.
* `PropertySource.Regular.ofFlat_flatten`: the flat form of a tree builds that tree.
* `PropertySource.flat_form_equivalent`: so all that is read, bound and evaluated is the same.
-/

namespace OAuthClient

namespace PropertySource

open Value (IsKey under leavesIn)

/-! ### The flat form -/

/-- A leaf under its dotted name. -/
def named (leaf : List String × Value) : String × Value := (Text.joined '.' leaf.1, leaf.2)

/-- The leaves of entries under their dotted names. -/
def flatten (es : Entries Value) : Entries Value := (leavesIn es).map named

/-- A tree that its leaves determine: no map below the root is empty, and all keys can be written.
The entries of all its maps are in key order, as `Entries.ofList` puts them. -/
structure Regular (es : Entries Value) : Prop where
  inKeyOrder : es.InKeyOrder
  keys : ∀ e ∈ es, IsKey e.1
  values : ∀ e ∈ es, e.2.Regular

theorem flatten_cons (e : String × Value) (es : Entries Value) :
    flatten (e :: es) = (under e.1 e.2.leaves).map named ++ flatten es := by
  rw [flatten, Value.leavesIn_cons, List.map_append, flatten]

theorem flatten_append (es more : Entries Value) :
    flatten (es ++ more) = flatten es ++ flatten more := by
  simp [flatten, Value.leavesIn_eq_flatMap]

/-- A path whose keys can be written is the path of its name. -/
theorem pathOf_named {leaf : List String × Value} (hne : leaf.1 ≠ [])
    (h : ∀ key ∈ leaf.1, IsKey key) : pathOf (named leaf).1 = leaf.1 :=
  Text.segments_joined_of_not_mem hne fun key hkey => (h key hkey).2

section

variable {es : Entries Value}

/-- The leaves of a tree are no maps, at paths whose keys can be written. -/
theorem of_mem_leavesIn (keys : ∀ e ∈ es, IsKey e.1) (values : ∀ e ∈ es, e.2.Regular) :
    ∀ leaf ∈ leavesIn es, ¬ leaf.2.IsMap ∧ leaf.1 ≠ [] ∧ ∀ key ∈ leaf.1, IsKey key := by
  intro leaf hleaf
  obtain ⟨e, he, inner, hinner, rfl⟩ := Value.mem_leavesIn.mp hleaf
  obtain ⟨hvalue, hpath⟩ := (values e he).of_mem_leaves inner hinner
  exact ⟨hvalue, List.cons_ne_nil _ _, List.forall_mem_cons.mpr ⟨keys e he, hpath⟩⟩

/-- The names of the flat form are distinct. -/
theorem Regular.nodup_keys_flatten (h : Regular es) : (flatten es).keys.Nodup := by
  have hpaths : (leavesIn es).Pairwise (·.1 ≠ ·.1) :=
    Value.pairwise_leavesIn h.inKeyOrder.distinct fun e he => (h.values e he).pairwise_leaves
  have hleaves := of_mem_leavesIn h.keys h.values
  refine List.pairwise_map.mpr (List.pairwise_map.mpr ?_)
  refine hpaths.imp_of_mem fun {leaf other} hleaf hother hne heq => hne ?_
  obtain ⟨-, hnil, hkeys⟩ := hleaves leaf hleaf
  obtain ⟨-, hnil', hkeys'⟩ := hleaves other hother
  rw [← pathOf_named hnil hkeys, ← pathOf_named hnil' hkeys']
  exact congrArg pathOf heq

/-! ### The key order of the flat form -/

/-- A text with a dot is no array index. -/
theorem not_isIndex_of_dot {key : String} (h : '.' ∈ key.toList) : ¬ Entries.IsIndex key := by
  have hdigits : key.toList.all Char.isDigit = false :=
    List.all_eq_false.mpr ⟨'.', h, by decide⟩
  simp [Entries.IsIndex, Entries.arrayIndex?, hdigits]

/-- An entry that comes first in the flat form: a leaf at the root under an array index. -/
def IsAhead (e : String × Value) : Prop := Entries.IsIndex e.1 ∧ ¬ e.2.IsMap

instance (e : String × Value) : Decidable (IsAhead e) := inferInstanceAs (Decidable (_ ∧ _))

/-- Only an entry that is ahead gives the flat form an array index as a name. -/
theorem isIndex_named_iff {e : String × Value} (h : e.2.Regular) {leaf : List String × Value}
    (hleaf : leaf ∈ under e.1 e.2.leaves) : Entries.IsIndex (named leaf).1 ↔ IsAhead e := by
  obtain ⟨key, v⟩ := e
  cases h with
  | leaf hmap =>
    rw [Value.leaves_of_not_isMap hmap] at hleaf
    obtain rfl : leaf = ([key], v) := List.mem_singleton.mp hleaf
    have hname : (named ([key], v)).1 = key := by simp [named, Text.joined, Text.joinWith]
    rw [hname, IsAhead, and_iff_left hmap]
  | @map inner _ _ hkeys hvalues =>
    -- A leaf within a map has a name with a dot.
    rw [Value.leaves_map] at hleaf
    obtain ⟨below, hbelow, rfl⟩ := Value.mem_under.mp hleaf
    obtain ⟨-, hne, -⟩ := of_mem_leavesIn hkeys hvalues below hbelow
    obtain ⟨next, path, hpath⟩ := List.exists_cons_of_ne_nil hne
    have hdot : '.' ∈ (named (key :: below.1, below.2)).1.toList := by
      simp [named, hpath, Text.joined, Text.joinWith]
    exact iff_of_false (not_isIndex_of_dot hdot) fun hahead => hahead.2 (Value.isMap_map inner)

/-- Choosing from the flat form is choosing from the tree if it does not tell the leaves of an entry
apart. -/
theorem filter_flatten {p q : String × Value → Bool}
    (h : ∀ e ∈ es, ∀ leaf ∈ under e.1 e.2.leaves, p (named leaf) = q e) :
    (flatten es).filter p = flatten (es.filter q) := by
  induction es with
  | nil => rfl
  | cons e es ih =>
    have hrest : (flatten es).filter p = flatten (es.filter q) :=
      ih fun e' he' => h e' (List.mem_cons_of_mem e he')
    have hhead : ∀ property ∈ (under e.1 e.2.leaves).map named, p property = q e :=
      List.forall_mem_map.mpr (h e List.mem_cons_self)
    rw [flatten_cons, List.filter_append, hrest]
    by_cases hq : q e
    · have hall : ((under e.1 e.2.leaves).map named).filter p = (under e.1 e.2.leaves).map named :=
        List.filter_eq_self.mpr fun property hmem => (hhead property hmem).trans hq
      rw [hall, List.filter_cons_of_pos hq, flatten_cons]
    · have hnone : ((under e.1 e.2.leaves).map named).filter p = [] :=
        List.filter_eq_nil_iff.mpr fun property hmem hp => hq ((hhead property hmem).symm.trans hp)
      rw [hnone, List.filter_cons_of_neg hq, List.nil_append]

/-- Entries without maps are their own flat form. -/
theorem flatten_of_not_isMap (h : ∀ e ∈ es, ¬ e.2.IsMap) : flatten es = es := by
  induction es with
  | nil => rfl
  | cons e es ih =>
    have hhead : (under e.1 e.2.leaves).map named = [e] := by
      rw [Value.leaves_of_not_isMap (h e List.mem_cons_self)]
      simp [under, named, Text.joined, Text.joinWith]
    rw [flatten_cons, hhead, ih fun e' he' => h e' (List.mem_cons_of_mem e he')]
    rfl

/-- A tree in the order in which its flat form comes as the entries of a map. -/
def reordered (es : Entries Value) : Entries Value :=
  es.filter (IsAhead ·) ++ es.filter (!IsAhead ·)

theorem reordered_perm (es : Entries Value) : (reordered es).Perm es :=
  List.filter_append_perm _ es

/-- Giving the entries in that order puts them in their own order again. -/
theorem ofList_reordered (h : es.InKeyOrder) : Entries.ofList (reordered es) = es :=
  (Entries.ofList_filter_append_filter h.distinct fun _ _ hahead =>
    (of_decide_eq_true hahead).1).trans (Entries.ofList_of_inKeyOrder h)

/-- The array indices among the names are the keys of the entries that are ahead. -/
theorem filter_isIndex_flatten (values : ∀ e ∈ es, e.2.Regular) :
    (flatten es).filter (Entries.IsIndex ·.1) = flatten (es.filter (IsAhead ·)) :=
  filter_flatten fun e he _ hleaf => decide_eq_decide.mpr (isIndex_named_iff (values e he) hleaf)

theorem filter_not_isIndex_flatten (values : ∀ e ∈ es, e.2.Regular) :
    (flatten es).filter (!Entries.IsIndex ·.1) = flatten (es.filter (!IsAhead ·)) :=
  filter_flatten fun e he _ hleaf =>
    congrArg (!·) (decide_eq_decide.mpr (isIndex_named_iff (values e he) hleaf))

theorem flatten_reordered (values : ∀ e ∈ es, e.2.Regular) :
    flatten (reordered es) = (flatten es).filter (Entries.IsIndex ·.1) ++
      (flatten es).filter (!Entries.IsIndex ·.1) := by
  rw [reordered, flatten_append, filter_isIndex_flatten values, filter_not_isIndex_flatten values]

/-- The flat form of the reordered tree is in key order. -/
theorem Regular.inKeyOrder_flatten (h : Regular es) : (flatten (reordered es)).InKeyOrder := by
  rw [flatten_reordered h.values]
  refine ⟨?_, List.pairwise_map.mpr (List.pairwise_append.mpr ⟨?_, ?_, ?_⟩)⟩
  · exact Entries.nodup_keys_of_perm (List.filter_append_perm _ _) h.nodup_keys_flatten
  · -- The entries that are ahead are no maps, so they are their own flat form.
    have hahead : flatten (es.filter (IsAhead ·)) = es.filter (IsAhead ·) :=
      flatten_of_not_isMap fun e he => (of_decide_eq_true (List.mem_filter.mp he).2).2
    rw [filter_isIndex_flatten h.values, hahead]
    exact (List.pairwise_map.mp h.inKeyOrder.ordered).sublist List.filter_sublist
  · exact List.pairwise_of_forall_mem_list fun _ _ p hp hindex =>
      absurd hindex (by simpa using (List.mem_filter.mp hp).2)
  · exact fun _ _ p hp hindex => absurd hindex (by simpa using (List.mem_filter.mp hp).2)

/-- As the entries of a map, the flat form is that of the reordered tree. -/
theorem Regular.ofList_flatten (h : Regular es) :
    Entries.ofList (flatten es) = flatten (reordered es) := by
  have hmove : Entries.ofList (flatten (reordered es)) = Entries.ofList (flatten es) := by
    rw [flatten_reordered h.values]
    exact Entries.ofList_filter_append_filter h.nodup_keys_flatten fun _ _ => of_decide_eq_true
  rw [← hmove]
  exact Entries.ofList_of_inKeyOrder h.inKeyOrder_flatten

/-! ### Building from the flat form -/

/-- Setting leaves is adding their flat form, as no value is a map. -/
theorem PutAll.addAll {es' : Entries Value} {leaves : List (List String × Value)}
    (h : PutAll es leaves es')
    (hleaves : ∀ leaf ∈ leaves, ¬ leaf.2.IsMap ∧ ∀ key ∈ leaf.1, IsKey key) :
    Draft.addAll ⟨es, []⟩ (leaves.map named) = .ok ⟨es', []⟩ := by
  induction h with
  | nil => rfl
  | @cons es next es' segments last value leaves head tail ih =>
    obtain ⟨hmap, hkeys⟩ := hleaves _ List.mem_cons_self
    have hpath : pathOf (named (segments ++ [last], value)).1 = segments ++ [last] :=
      pathOf_named (List.append_ne_nil_of_right_ne_nil segments (List.cons_ne_nil last [])) hkeys
    have hname : IsName (named (segments ++ [last], value)).1 :=
      (isName_iff hpath).mpr (hkeys last (by simp)).1
    have hmaps : mapPaths value = [] :=
      List.eq_nil_iff_forall_not_mem.mpr fun path hmem => hmap (Draft.isMap_of_mem_mapPaths hmem)
    have hset : Draft.setLeaf ⟨es, []⟩ segments last value = .ok ⟨next, []⟩ :=
      Draft.setLeaf_eq_ok_iff.mpr ⟨head, by simp [hmaps]⟩
    rw [List.map_cons]
    refine Draft.addAll_cons_eq_ok_iff.mpr ⟨⟨next, []⟩, ?_, ?_⟩
    · rw [Draft.add_eq_setLeaf hname hpath fun before hbefore => absurd hbefore List.not_mem_nil]
      change (Draft.setLeaf ⟨es, []⟩ segments last value).mapError _ = _
      rw [hset]
      rfl
    · exact ih fun leaf hleaf => hleaves leaf (List.mem_cons_of_mem _ hleaf)

/-- The leaves of the reordered tree make the tree. -/
theorem Regular.putAll_reordered (h : Regular es) : PutAll [] (leavesIn (reordered es)) es := by
  have hperm := reordered_perm es
  have hdistinct : (reordered es).keys.Nodup :=
    Entries.nodup_keys_of_perm hperm h.inKeyOrder.distinct
  have hput : PutAll [] (leavesIn (reordered es)) (Entries.ofList (reordered es)) :=
    putAll_leavesIn hdistinct (fun _ _ => List.not_mem_nil) fun e he _ hnew =>
      putAll_leaves (h.values e (hperm.mem_iff.mp he)) hnew
  rwa [ofList_reordered h.inKeyOrder] at hput

/-- The flat form of a tree is accepted and builds that tree. -/
theorem Regular.ofFlat_flatten (h : Regular es) :
    ofFlat (Entries.ofList (flatten es)) = .ok ⟨es⟩ := by
  have hperm := reordered_perm es
  have hleaves : ∀ leaf ∈ leavesIn (reordered es),
      ¬ leaf.2.IsMap ∧ leaf.1 ≠ [] ∧ ∀ key ∈ leaf.1, IsKey key :=
    of_mem_leavesIn (fun e he => h.keys e (hperm.mem_iff.mp he)) fun e he =>
      h.values e (hperm.mem_iff.mp he)
  have hall := h.putAll_reordered.addAll fun leaf hleaf =>
    ⟨(hleaves leaf hleaf).1, (hleaves leaf hleaf).2.2⟩
  rw [h.ofList_flatten]
  exact ofFlat_eq_ok_iff.mpr ⟨⟨es, []⟩, hall, rfl⟩

end

/-- **The flat form of a tree builds a tree with the same entries, in the same order in every map.
So every path reads the same in both, the same map and the same registrations are bound below every
prefix, or the same issues found, and the condition on client support has the same outcome.** -/
theorem flat_form_equivalent (source : PropertySource) (h : Regular source.root) :
    ∃ flat, ofFlat (Entries.ofList (flatten source.root)) = .ok flat ∧ flat.root = source.root ∧
      (∀ path, flat.get? path = source.get? path) ∧
      (∀ path, Binding.mapBelow flat path = Binding.mapBelow source path) ∧
      (∀ env path, Binding.registrations env flat path = Binding.registrations env source path) ∧
      ∀ env path, Condition.evaluate env flat path = Condition.evaluate env source path :=
  ⟨source, h.ofFlat_flatten, rfl, fun _ => rfl, fun _ => rfl, fun _ _ => rfl, fun _ _ => rfl⟩

/-- In the flat form an array index at the root changes places with a map before it, and the tree is
the same. -/
theorem flat_form_equivalent_moved :
    let source : PropertySource :=
      ⟨[("0", .map [("10", .null), ("x", .list [])]), ("1", .text "y"), ("b", .bool true)]⟩
    Regular source.root ∧ (Entries.ofList (flatten source.root)).keys = ["1", "0.10", "0.x", "b"] ∧
      ∃ flat, ofFlat (Entries.ofList (flatten source.root)) = .ok flat ∧ flat.root = source.root ∧
        flat.get? "0.x" = some (.list []) := by
  intro source
  have hinner : (Value.map [("10", .null), ("x", .list [])]).Regular :=
    .map (by decide) (by decide +kernel) (by decide +kernel) (List.forall_mem_cons.mpr
      ⟨.leaf (by decide), List.forall_mem_singleton.mpr (.leaf (by decide))⟩)
  have hregular : Regular source.root := by
    refine ⟨by decide +kernel, by decide +kernel, ?_⟩
    refine List.forall_mem_cons.mpr ⟨hinner, List.forall_mem_cons.mpr ⟨.leaf (by decide), ?_⟩⟩
    exact List.forall_mem_singleton.mpr (.leaf (by decide))
  obtain ⟨flat, hflat, hroot, hget, -⟩ := flat_form_equivalent source hregular
  exact ⟨hregular, by decide +kernel, flat, hflat, hroot, (hget "0.x").trans (by decide +kernel)⟩

end PropertySource

end OAuthClient
