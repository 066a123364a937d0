import Mathlib.Data.List.Nodup
import OAuthClient.Entries
import OAuthClient.Proofs.Text.Digits

/-!
# Key order

Giving keys their values one after the other puts them in key order, and entries that are in key
order already stay as they are. Array indices may be given ahead of other keys.

## Main statements

* `Entries.InKeyOrder`: keys are distinct and array indices come first, in ascending order.
* `Entries.inKeyOrder_ofList`: entries are in key order, whatever the order in which they are given.
* `Entries.ofList_of_inKeyOrder`: giving entries in key order changes nothing.
* `Entries.ofList_filter_append_filter`: array indices may be given ahead of other keys.
* `Entries.KeyOrdered`, `Entries.keyOrdered_ofList`: the order of keys, in terms of the order in
  which they are given.
* `Entries.set_set`: of two values that a key is given the later one holds.
* `Entries.mem_iff_get?`: under distinct keys, what is read is what is there.
-/

namespace OAuthClient

universe u v

namespace Entries

/-! ### How keys compare -/

/-- A key is an array index. -/
def IsIndex (key : String) : Prop := (arrayIndex? key).isSome

instance (key : String) : Decidable (IsIndex key) := inferInstanceAs (Decidable (_ = true))

theorem of_arrayIndex?_eq_some {key : String} {i : Nat} (h : arrayIndex? key = some i) :
    (key.toList = ['0'] ∨ Text.Plain key.toList ∧ key.toList ≠ []) ∧
      Text.digitsValue key.toList = i := by
  obtain ⟨hindex, hvalue⟩ := Option.ite_none_right_eq_some.mp h
  simp only [Bool.and_eq_true, Bool.or_eq_true, beq_iff_eq] at hindex
  obtain ⟨⟨hdigits, hzero⟩, -⟩ := hindex
  refine ⟨hzero.imp_right fun hhead => ?_, Option.some.inj hvalue⟩
  obtain ⟨c, hc, hne⟩ := (Option.any_eq_true _ _).mp hhead
  have hplain : key.toList.head? ≠ some '0' := by
    rw [hc]
    simpa using hne
  refine ⟨⟨List.all_eq_true.mp hdigits, hplain⟩, fun hnil => ?_⟩
  rw [hnil] at hc
  cases hc

/-- Different keys are different array indices. -/
theorem eq_of_arrayIndex?_eq {key other : String} {i : Nat} (hkey : arrayIndex? key = some i)
    (hother : arrayIndex? other = some i) : key = other := by
  obtain ⟨hkey, hi⟩ := of_arrayIndex?_eq_some hkey
  obtain ⟨hother, hj⟩ := of_arrayIndex?_eq_some hother
  have hzero : Text.digitsValue ['0'] = 0 := rfl
  refine String.toList_inj.mp ?_
  rcases hkey with hkey | ⟨hkey, hne⟩
  · rcases hother with hother | ⟨hother, hne⟩
    · rw [hkey, hother]
    · have hpos := hother.digitsValue_pos hne
      rw [hkey] at hi
      omega
  · rcases hother with hother | ⟨hother, -⟩
    · have hpos := hkey.digitsValue_pos hne
      rw [hother] at hj
      omega
    · exact hkey.eq_of_digitsValue_eq hother (hi.trans hj.symm)

theorem precedes_iff {key present : String} : precedes key present ↔
    ∃ i, arrayIndex? key = some i ∧ ∀ j, arrayIndex? present = some j → i < j := by
  unfold precedes
  cases arrayIndex? key with
  | none => simp
  | some i =>
    cases arrayIndex? present with
    | none => simp
    | some j => simp

theorem isIndex_of_precedes {key present : String} (h : precedes key present) : IsIndex key := by
  obtain ⟨i, hi, -⟩ := precedes_iff.mp h
  rw [IsIndex, hi]
  rfl

/-- An array index goes before every key that is none. -/
theorem precedes_of_isIndex {key present : String} (hkey : IsIndex key)
    (hpresent : ¬ IsIndex present) : precedes key present := by
  obtain ⟨i, hi⟩ := Option.isSome_iff_exists.mp hkey
  refine precedes_iff.mpr ⟨i, hi, fun j hj => ?_⟩
  exact absurd (Option.isSome_of_eq_some hj) hpresent

theorem not_precedes_of_precedes {key present : String} (h : precedes key present) :
    ¬ precedes present key := by
  intro h'
  obtain ⟨i, hi, hless⟩ := precedes_iff.mp h
  obtain ⟨j, hj, hless'⟩ := precedes_iff.mp h'
  have hij := hless j hj
  have hji := hless' i hi
  omega

theorem precedes_trans {a b c : String} (hab : precedes a b) (hbc : precedes b c) :
    precedes a c := by
  obtain ⟨i, hi, hless⟩ := precedes_iff.mp hab
  obtain ⟨j, hj, hless'⟩ := precedes_iff.mp hbc
  exact precedes_iff.mpr ⟨i, hi, fun k hk => Nat.lt_trans (hless j hj) (hless' k hk)⟩

/-- One of two keys goes before the other. -/
def Comparable (a b : String) : Prop := precedes a b ∨ precedes b a

/-- An array index compares with every other key. -/
theorem comparable_of_isIndex {key other : String} (h : IsIndex key) (hne : other ≠ key) :
    Comparable other key := by
  by_cases hother : IsIndex other
  · obtain ⟨i, hi⟩ := Option.isSome_iff_exists.mp h
    obtain ⟨j, hj⟩ := Option.isSome_iff_exists.mp hother
    have hij : i ≠ j := by
      rintro rfl
      exact hne (eq_of_arrayIndex?_eq hj hi)
    rcases Nat.lt_or_gt_of_ne hij with hless | hless
    · exact .inr (precedes_iff.mpr ⟨i, hi, fun k hk => by simp_all⟩)
    · exact .inl (precedes_iff.mpr ⟨j, hj, fun k hk => by simp_all⟩)
  · exact .inr (precedes_of_isIndex h hother)

/-! ### The order in which keys are given -/

variable {α : Type u} {key other : String} {value : α} {acc es : Entries α}

theorem place_append_of_not_precedes (h : ∀ e ∈ acc, ¬ precedes key e.1) :
    place key value acc = acc ++ [(key, value)] := by
  induction acc with
  | nil => rfl
  | cons e acc ih =>
    rw [place, if_neg (h e List.mem_cons_self),
      ih fun e' he' => h e' (List.mem_cons_of_mem e he')]
    rfl

theorem place_place_of_precedes (h : precedes key other) (v w : α) :
    place key v (place other w es) = place other w (place key v es) := by
  have hnot : ¬ precedes other key := not_precedes_of_precedes h
  induction es with
  | nil => simp [place, h, hnot]
  | cons e es ih =>
    by_cases hother : precedes other e.1
    · have hkey : precedes key e.1 := precedes_trans h hother
      simp [place, h, hnot, hother, hkey]
    · by_cases hkey : precedes key e.1
      · simp [place, hnot, hother, hkey]
      · simp [place, hother, hkey, ih]

/-- Two new keys that compare can be given in either order. -/
theorem place_comm (h : Comparable key other) (v w : α) :
    place key v (place other w es) = place other w (place key v es) := by
  rcases h with h | h
  · exact place_place_of_precedes h v w
  · exact (place_place_of_precedes h w v).symm

theorem map_place (h : key ∉ keys es) (v w : α) :
    (place key v es).map (fun e => if e.1 = key then (key, w) else e) = place key w es := by
  induction es with
  | nil => simp [place]
  | cons e es ih =>
    obtain ⟨hne, hes⟩ : key ≠ e.1 ∧ key ∉ keys es := by simpa [keys] using h
    have hkept : es.map (fun e => if e.1 = key then (key, w) else e) = es := by
      refine (List.map_congr_left fun e' he' => if_neg ?_).trans (List.map_id es)
      rintro rfl
      exact hes (List.mem_map_of_mem he')
    by_cases hp : precedes key e.1
    · simp [place, hp, hne.symm, hkept]
    · simp [place, hp, hne.symm, ih hes]

/-- Of two values that a key is given the later one holds. -/
theorem set_set (es : Entries α) (key : String) (v w : α) :
    (es.set key v).set key w = es.set key w := by
  have hmem : key ∈ keys (es.set key v) := (mem_keys_set es key v key).mpr (.inl rfl)
  rw [set, if_pos hmem]
  by_cases h : key ∈ keys es
  · rw [set, if_pos h, set, if_pos h, List.map_map]
    refine List.map_congr_left fun e _ => ?_
    by_cases he : e.1 = key
    · simp [he]
    · simp [he]
  · rw [set, if_neg h, set, if_neg h]
    exact map_place h v w

/-- Puts new entries at their places one after the other. -/
def placeAll (acc es : Entries α) : Entries α :=
  es.foldl (fun acc e => place e.1 e.2 acc) acc

theorem foldl_set_eq_placeAll (distinct : (keys es).Nodup)
    (new : ∀ key ∈ keys es, key ∉ keys acc) :
    es.foldl (fun (acc : Entries α) e => acc.set e.1 e.2) acc = placeAll acc es := by
  induction es generalizing acc with
  | nil => rfl
  | cons e es ih =>
    obtain ⟨hhead, htail⟩ := List.nodup_cons.mp distinct
    have hset : acc.set e.1 e.2 = place e.1 e.2 acc :=
      if_neg (new e.1 List.mem_cons_self)
    refine (congrArg (es.foldl _) hset).trans (ih htail fun key hkey hmem => ?_)
    rcases (mem_keys_place e.1 e.2 acc key).mp hmem with rfl | hacc
    · exact hhead hkey
    · exact new key (List.mem_cons_of_mem e.1 hkey) hacc

theorem ofList_eq_placeAll (distinct : (keys es).Nodup) : ofList es = placeAll [] es :=
  foldl_set_eq_placeAll distinct fun _ _ => List.not_mem_nil

theorem placeAll_place (h : ∀ e ∈ es, Comparable key e.1) :
    placeAll (place key value acc) es = place key value (placeAll acc es) := by
  induction es generalizing acc with
  | nil => rfl
  | cons e es ih =>
    have hcomm : place e.1 e.2 (place key value acc) = place key value (place e.1 e.2 acc) :=
      (place_comm (h e List.mem_cons_self) value e.2).symm
    change placeAll (place e.1 e.2 (place key value acc)) es = _
    rw [hcomm]
    exact ih fun e' he' => h e' (List.mem_cons_of_mem e he')

theorem placeAll_filter_append_filter {p : String × α → Bool}
    (h : ∀ e ∈ es, p e → ∀ e' ∈ es, ¬ p e' → Comparable e'.1 e.1) :
    placeAll acc (es.filter p ++ es.filter (!p ·)) = placeAll acc es := by
  induction es generalizing acc with
  | nil => rfl
  | cons e es ih =>
    have hrest : ∀ {acc : Entries α},
        placeAll acc (es.filter p ++ es.filter (!p ·)) = placeAll acc es :=
      ih fun x hx hpx y hy hpy =>
        h x (List.mem_cons_of_mem e hx) hpx y (List.mem_cons_of_mem e hy) hpy
    by_cases hp : p e
    · rw [List.filter_cons_of_pos hp, List.filter_cons_of_neg (by simp [hp])]
      exact hrest
    · have hlater : ∀ x ∈ es.filter p, Comparable e.1 x.1 := by
        intro x hx
        obtain ⟨hmem, hpx⟩ := List.mem_filter.mp hx
        exact h x (List.mem_cons_of_mem e hmem) hpx e List.mem_cons_self hp
      rw [List.filter_cons_of_neg hp, List.filter_cons_of_pos (by simp [hp])]
      calc placeAll acc (es.filter p ++ e :: es.filter (!p ·))
          = placeAll (place e.1 e.2 (placeAll acc (es.filter p))) (es.filter (!p ·)) := by
            simp [placeAll]
        _ = placeAll (placeAll (place e.1 e.2 acc) (es.filter p)) (es.filter (!p ·)) := by
            rw [placeAll_place hlater]
        _ = placeAll (place e.1 e.2 acc) (es.filter p ++ es.filter (!p ·)) := by
            simp [placeAll]
        _ = placeAll (place e.1 e.2 acc) es := hrest

/-- Array indices may be given ahead of other keys. -/
theorem ofList_filter_append_filter {p : String × α → Bool} (distinct : (keys es).Nodup)
    (h : ∀ e ∈ es, p e → IsIndex e.1) :
    ofList (es.filter p ++ es.filter (!p ·)) = ofList es := by
  have hperm : (es.filter p ++ es.filter (!p ·)).Perm es := List.filter_append_perm p es
  rw [ofList_eq_placeAll (nodup_keys_of_perm hperm distinct), ofList_eq_placeAll distinct]
  refine placeAll_filter_append_filter fun e he hp e' he' hp' => ?_
  refine comparable_of_isIndex (h e he hp) fun heq => hp' ?_
  rwa [List.inj_on_of_nodup_map distinct he' he heq]

/-! ### What is under distinct keys -/

theorem mem_of_get? (h : get? es key = some value) : (key, value) ∈ es := by
  obtain ⟨e, he, rfl⟩ := Option.map_eq_some_iff.mp h
  have hkey : e.1 = key := by simpa using List.find?_some he
  exact hkey ▸ List.mem_of_find?_eq_some he

/-- Under distinct keys an entry is what is found under its key. -/
theorem mem_iff_get? (distinct : (keys es).Nodup) :
    (key, value) ∈ es ↔ get? es key = some value := by
  refine ⟨fun hmem => ?_, mem_of_get?⟩
  cases hget : get? es key with
  | none => exact absurd (List.mem_map_of_mem hmem) ((get?_eq_none_iff es key).mp hget)
  | some other =>
    have heq : (key, value) = (key, other) :=
      List.inj_on_of_nodup_map distinct hmem (mem_of_get? hget) rfl
    rw [(Prod.mk.inj heq).2]

/-! ### Entries in key order -/

/-- Keys are distinct, and what comes before an array index is a smaller one. -/
structure InKeyOrder (es : Entries α) : Prop where
  distinct : es.keys.Nodup
  ordered : es.keys.Pairwise fun before key => IsIndex key → precedes before key

instance (es : Entries α) : Decidable es.InKeyOrder :=
  decidable_of_iff
    (es.keys.Nodup ∧ es.keys.Pairwise fun before key => IsIndex key → precedes before key)
    ⟨fun h => ⟨h.1, h.2⟩, fun h => ⟨h.distinct, h.ordered⟩⟩

theorem inKeyOrder_nil : InKeyOrder ([] : Entries α) := ⟨List.Pairwise.nil, List.Pairwise.nil⟩

/-- Key order is a matter of the keys alone. -/
theorem InKeyOrder.of_keys_eq {β : Type v} {es' : Entries β} (h : InKeyOrder es)
    (hkeys : keys es' = keys es) : InKeyOrder es' :=
  ⟨hkeys ▸ h.distinct, hkeys ▸ h.ordered⟩

theorem InKeyOrder.place (h : InKeyOrder es) (new : key ∉ keys es) (value : α) :
    InKeyOrder (place key value es) := by
  refine ⟨nodup_keys_place new h.distinct value, ?_⟩
  obtain ⟨-, hordered⟩ := h
  induction es with
  | nil => exact List.pairwise_singleton _ key
  | cons e es ih =>
    obtain ⟨hhead, htail⟩ := List.pairwise_cons.mp hordered
    obtain ⟨hne, hes⟩ : key ≠ e.1 ∧ key ∉ keys es := by simpa [keys] using new
    by_cases hp : precedes key e.1
    · rw [Entries.place, if_pos hp]
      refine List.pairwise_cons.mpr ⟨fun other hother hindex => ?_, hordered⟩
      rcases List.mem_cons.mp hother with rfl | hlater
      · exact hp
      · exact precedes_trans hp (hhead other hlater hindex)
    · rw [Entries.place, if_neg hp]
      refine List.pairwise_cons.mpr ⟨fun other hother hindex => ?_, ih hes htail⟩
      rcases (mem_keys_place key value es other).mp hother with rfl | hlater
      · exact (comparable_of_isIndex hindex hne.symm).resolve_right hp
      · exact hhead other hlater hindex

/-- Entries stay in key order when a key is given a value. -/
theorem InKeyOrder.set (h : InKeyOrder es) (key : String) (value : α) :
    InKeyOrder (es.set key value) := by
  by_cases hmem : key ∈ keys es
  · have hkeys : keys (es.set key value) = keys es := keys_set_of_mem hmem value
    exact h.of_keys_eq hkeys
  · rw [Entries.set, if_neg hmem]
    exact h.place hmem value

/-- Giving keys their values one after the other puts them in key order. -/
theorem inKeyOrder_ofList (es : List (String × α)) : InKeyOrder (ofList es) := by
  unfold ofList
  generalize hacc : ([] : Entries α) = acc
  have h : InKeyOrder acc := hacc ▸ inKeyOrder_nil
  clear hacc
  induction es generalizing acc with
  | nil => exact h
  | cons e es ih => exact ih _ (h.set e.1 e.2)

theorem placeAll_of_pairwise
    (h : (keys (acc ++ es)).Pairwise fun before key => ¬ precedes key before) :
    placeAll acc es = acc ++ es := by
  induction es generalizing acc with
  | nil => exact (List.append_nil acc).symm
  | cons e es ih =>
    have hplace : place e.1 e.2 acc = acc ++ [e] :=
      place_append_of_not_precedes fun before hbefore =>
        (List.pairwise_append.mp (List.pairwise_map.mp h)).2.2 before hbefore e List.mem_cons_self
    change placeAll (place e.1 e.2 acc) es = _
    rw [List.append_cons] at h ⊢
    rw [hplace, ih h]

/-- Entries that are given in key order are in that order. -/
theorem ofList_of_inKeyOrder (h : InKeyOrder es) : ofList es = es := by
  rw [ofList_eq_placeAll h.distinct]
  refine placeAll_of_pairwise (h.ordered.imp fun hbefore hprecedes => ?_)
  exact not_precedes_of_precedes hprecedes (hbefore (isIndex_of_precedes hprecedes))

/-! ### The order of given keys -/

/-- Keys are those that are given, in key order: array indices in ascending order, then all others
in the order in which they first come. -/
def KeyOrdered (given keys : List String) : Prop :=
  ∃ indices, keys = indices ++ (given.filter (¬ IsIndex ·)).eraseDups ∧
    indices.Pairwise (fun before key => precedes before key) ∧
    ∀ key, key ∈ indices ↔ key ∈ given ∧ IsIndex key

theorem KeyOrdered.mem_iff {given keys : List String} (h : KeyOrdered given keys) (key : String) :
    key ∈ keys ↔ key ∈ given := by
  obtain ⟨indices, rfl, -, hindices⟩ := h
  rw [List.mem_append, hindices, List.mem_eraseDups, List.mem_filter]
  by_cases hindex : IsIndex key <;> simp [hindex]

/-- In key order the array indices come first. -/
theorem filter_isIndex_append_filter {keys : List String}
    (h : keys.Pairwise fun before key => IsIndex key → precedes before key) :
    keys.filter (IsIndex ·) ++ keys.filter (¬ IsIndex ·) = keys := by
  induction keys with
  | nil => rfl
  | cons key keys ih =>
    obtain ⟨hhead, htail⟩ := List.pairwise_cons.mp h
    by_cases hkey : IsIndex key
    · rw [List.filter_cons_of_pos (by simpa using hkey),
        List.filter_cons_of_neg (by simpa using hkey), List.cons_append, ih htail]
    · have hothers : ∀ other ∈ key :: keys, ¬ IsIndex other := by
        refine List.forall_mem_cons.mpr ⟨hkey, fun other hother hindex => hkey ?_⟩
        exact isIndex_of_precedes (hhead other hother hindex)
      rw [List.filter_eq_nil_iff.mpr fun other hother => by simpa using hothers other hother,
        List.filter_eq_self.mpr fun other hother => by simpa using hothers other hother]
      rfl

theorem filter_keys_place {p : String → Bool} (h : p key = false) :
    (keys (place key value es)).filter p = (keys es).filter p := by
  unfold keys
  induction es with
  | nil => simp [place, h]
  | cons e es ih =>
    by_cases hp : precedes key e.1
    · simp [place, hp, h]
    · rw [place, if_neg hp, List.map_cons, List.map_cons, List.filter_cons, List.filter_cons, ih]

/-- A key that is no array index goes to the end, unless it is there. -/
theorem filter_keys_set (es : Entries α) (key : String) (value : α) :
    (keys (es.set key value)).filter (¬ IsIndex ·) =
      (keys es).filter (¬ IsIndex ·) ++ if key ∈ keys es ∨ IsIndex key then [] else [key] := by
  by_cases hmem : key ∈ keys es
  · rw [keys_set_of_mem hmem, if_pos (.inl hmem), List.append_nil]
  · rw [set, if_neg hmem]
    by_cases hindex : IsIndex key
    · rw [filter_keys_place (by simpa using hindex), if_pos (.inr hindex), List.append_nil]
    · have hplace : place key value es = es ++ [(key, value)] :=
        place_append_of_not_precedes fun _ _ hp => hindex (isIndex_of_precedes hp)
      have hkeys : keys (es ++ [(key, value)]) = keys es ++ [key] := by simp [keys]
      rw [hplace, hkeys, List.filter_append, if_neg (by simp [hmem, hindex]),
        List.filter_cons_of_pos (by simpa using hindex)]
      rfl

theorem ofList_append_singleton (es : List (String × α)) (e : String × α) :
    ofList (es ++ [e]) = (ofList es).set e.1 e.2 := by
  simp [ofList]

theorem mem_keys_ofList (es : List (String × α)) (key : String) :
    key ∈ keys (ofList es) ↔ key ∈ es.map (·.1) := by
  induction es using List.reverseRecOn with
  | nil => rfl
  | append_singleton es e ih =>
    rw [ofList_append_singleton, mem_keys_set, ih, List.map_append, List.mem_append, or_comm]
    simp

/-- Keys that are no array indices stay in the order in which they first come. -/
theorem filter_keys_ofList (es : List (String × α)) :
    (keys (ofList es)).filter (¬ IsIndex ·) =
      ((es.map (·.1)).filter (¬ IsIndex ·)).eraseDups := by
  induction es using List.reverseRecOn with
  | nil => rfl
  | append_singleton es e ih =>
    rw [ofList_append_singleton, filter_keys_set, ih, List.map_append, List.filter_append,
      List.eraseDups_append]
    congr 1
    simp only [mem_keys_ofList es e.1]
    by_cases hindex : IsIndex e.1
    · simp [hindex, List.removeAll]
    · by_cases hmem : e.1 ∈ es.map (·.1)
      · simp [hindex, hmem, List.removeAll]
      · simp [hindex, hmem, List.removeAll, List.eraseDups_cons]

/-- Giving keys their values puts the keys in key order. -/
theorem keyOrdered_ofList (es : List (String × α)) :
    KeyOrdered (es.map (·.1)) (keys (ofList es)) := by
  obtain ⟨-, hordered⟩ := inKeyOrder_ofList es
  refine ⟨(keys (ofList es)).filter (IsIndex ·), ?_, ?_, fun key => ?_⟩
  · rw [← filter_keys_ofList, filter_isIndex_append_filter hordered]
  · refine List.pairwise_filter.mpr (hordered.imp fun hbefore _ hkey => ?_)
    exact hbefore (of_decide_eq_true hkey)
  · rw [List.mem_filter, mem_keys_ofList, decide_eq_true_iff]

end Entries

end OAuthClient
