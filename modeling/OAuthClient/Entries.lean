import OAuthClient.Text.Digits

/-!
# Keyed entries in key order

A map of the configuration is the list of its entries. Keys that are array indices come first, in
ascending order; all other keys follow in the order in which they were first given. Giving a key
again keeps its place and changes its value.

## Main declarations

* `Entries α`: the entries of a map, in key order.
* `Entries.get?`, `Entries.keys`: the two views on it.
* `Entries.set`: gives a key a value; `get?_set_self` and `get?_set_of_ne` say what is read after
  it, `mem_keys_set` which keys there are.
* `Entries.ofList`: gives keys their values one after the other.
* `Entries.nodup_keys_set`, `Entries.nodup_keys_of_perm`: keys stay distinct.
-/

namespace OAuthClient

universe u v

/-- The entries of a map, each a key and its value, in key order. -/
abbrev Entries (α : Type u) := List (String × α)

namespace Entries

variable {α : Type u} {β : Type v}

/-- The keys, in key order. -/
def keys (es : Entries α) : List String := es.map (·.1)

/-- The value under a key. -/
def get? (es : Entries α) (key : String) : Option α :=
  (es.find? fun e => e.1 == key).map (·.2)

/-! ### Array indices -/

/-- The array index that a key writes: decimal digits without a leading zero or sign, of a number
below 2³² - 1. -/
def arrayIndex? (key : String) : Option Nat :=
  let cs := key.toList
  if cs.all Char.isDigit && (cs == ['0'] || (cs.head?.any (· != '0'))) &&
      Text.digitsValue cs < 4294967295
  then some (Text.digitsValue cs) else none

/-- Whether a new key goes before a present one: an array index goes before every greater index and
before every key that is none. -/
def precedes (key present : String) : Bool :=
  match arrayIndex? key, arrayIndex? present with
  | some i, some j => i < j
  | some _, none => true
  | none, _ => false

/-! ### Giving a key a value -/

/-- Puts a new entry at its place in key order. -/
def place (key : String) (value : α) : Entries α → Entries α
  | [] => [(key, value)]
  | e :: es => if precedes key e.1 then (key, value) :: e :: es else e :: place key value es

/-- Gives `key` the value `value`: in place if the key is present, else at its place in key order.
-/
def set (es : Entries α) (key : String) (value : α) : Entries α :=
  if key ∈ es.keys then es.map fun e => if e.1 = key then (key, value) else e
  else place key value es

/-- Gives keys their values one after the other. -/
def ofList (es : List (String × α)) : Entries α :=
  es.foldl (fun acc e => acc.set e.1 e.2) []

/-- Changes every value and keeps keys and order. -/
def mapValues (f : α → β) (es : Entries α) : Entries β := es.map fun e => (e.1, f e.2)

/-! ### What is read after giving a key a value -/

@[simp] theorem get?_nil (key : String) : get? ([] : Entries α) key = none := rfl

theorem get?_cons (e : String × α) (es : Entries α) (key : String) :
    get? (e :: es) key = if e.1 = key then some e.2 else get? es key := by
  by_cases h : e.1 = key <;> simp [get?, h]

theorem mem_keys_place (key : String) (value : α) (es : Entries α) (k : String) :
    k ∈ keys (place key value es) ↔ k = key ∨ k ∈ keys es := by
  induction es with
  | nil => simp [place, keys]
  | cons e es ih =>
    by_cases h : precedes key e.1
    · simp [place, h, keys]
    · simp only [place, h, keys, List.map_cons, List.mem_cons] at ih ⊢
      simp only [Bool.false_eq_true, if_false, List.map_cons, List.mem_cons, ih]
      grind

theorem get?_place (key : String) (value : α) (es : Entries α) (h : key ∉ keys es) (k : String) :
    get? (place key value es) k = if k = key then some value else get? es k := by
  induction es with
  | nil => simp [place, get?_cons, eq_comm]
  | cons e es ih =>
    have hne : key ≠ e.1 := by rintro rfl; simp [keys] at h
    have hes : key ∉ keys es := by simp only [keys, List.map_cons, List.mem_cons] at h ⊢; grind
    by_cases hp : precedes key e.1
    · simp only [place, hp, if_true, get?_cons]; grind
    · simp only [place, hp, Bool.false_eq_true, if_false, get?_cons, ih hes]; grind

theorem get?_eq_none_iff (es : Entries α) (key : String) : get? es key = none ↔ key ∉ keys es := by
  induction es with
  | nil => simp [keys]
  | cons e es ih =>
    rw [get?_cons]
    by_cases h : e.1 = key <;> simp_all [keys]
    grind

theorem get?_set (es : Entries α) (key : String) (value : α) (k : String) :
    get? (es.set key value) k = if k = key then some value else get? es k := by
  by_cases h : key ∈ keys es
  · simp only [set, h, if_true]
    induction es with
    | nil => simp [keys] at h
    | cons e es ih =>
      simp only [List.map_cons, get?_cons]
      by_cases hk : key ∈ keys es
      · rw [ih hk]; grind
      · have he : e.1 = key := by simp only [keys, List.map_cons, List.mem_cons] at h hk; grind
        have hes : (es.map fun e => if e.1 = key then (key, value) else e) = es := by
          refine (List.map_congr_left fun x hx => ?_).trans (List.map_id es)
          have : x.1 ≠ key := fun hx' => hk (hx' ▸ List.mem_map_of_mem hx)
          simp [this]
        rw [hes]; grind
  · simpa only [set, h, if_false] using get?_place key value es h k

/-- The key that was given a value has it. -/
@[simp] theorem get?_set_self (es : Entries α) (key : String) (value : α) :
    get? (es.set key value) key = some value := by
  simp [get?_set]

/-- All other keys keep what they had. -/
theorem get?_set_of_ne (es : Entries α) {key k : String} (value : α) (h : k ≠ key) :
    get? (es.set key value) k = get? es k := by
  simp [get?_set, h]

/-- The keys are those that were there and the one that was given a value. -/
theorem mem_keys_set (es : Entries α) (key : String) (value : α) (k : String) :
    k ∈ keys (es.set key value) ↔ k = key ∨ k ∈ keys es := by
  have h := get?_eq_none_iff (es.set key value) k
  rw [get?_set] at h
  have h' := get?_eq_none_iff es k
  grind

/-! ### Distinct keys -/

/-- Giving a value to a key that is there changes no key. -/
theorem keys_set_of_mem {es : Entries α} {key : String} (h : key ∈ keys es) (value : α) :
    keys (es.set key value) = keys es := by
  rw [set, if_pos h]
  unfold keys
  rw [List.map_map]
  refine List.map_congr_left fun e _ => ?_
  by_cases he : e.1 = key
  · simp [he]
  · simp [he]

theorem nodup_keys_place {es : Entries α} {key : String} (hnew : key ∉ keys es)
    (hes : (keys es).Nodup) (value : α) : (keys (place key value es)).Nodup := by
  induction es with
  | nil => simp [place, keys]
  | cons e es ih =>
    have hcons : (e.1 :: keys es).Nodup := hes
    obtain ⟨hhead, htail⟩ := List.nodup_cons.mp hcons
    obtain ⟨hne, hrest⟩ : key ≠ e.1 ∧ key ∉ keys es := by simpa [keys] using hnew
    by_cases hp : precedes key e.1
    · rw [place, if_pos hp]
      exact List.nodup_cons.mpr ⟨hnew, hes⟩
    · rw [place, if_neg hp]
      refine List.nodup_cons.mpr ⟨fun hmem => ?_, ih hrest htail⟩
      rcases (mem_keys_place key value es e.1).mp hmem with heq | hmem
      · exact hne heq.symm
      · exact hhead hmem

/-- Distinct keys stay distinct when a key is given a value. -/
theorem nodup_keys_set {es : Entries α} (hes : (keys es).Nodup) (key : String) (value : α) :
    (keys (es.set key value)).Nodup := by
  by_cases h : key ∈ keys es
  · rw [keys_set_of_mem h]
    exact hes
  · rw [set, if_neg h]
    exact nodup_keys_place h hes value

/-- Distinct keys stay distinct when entries are reordered. -/
theorem nodup_keys_of_perm {es es' : Entries α} (h : es.Perm es') (distinct : (keys es').Nodup) :
    (keys es).Nodup :=
  (h.map Prod.fst).nodup_iff.mpr distinct

@[simp] theorem keys_mapValues (f : α → β) (es : Entries α) : keys (mapValues f es) = keys es := by
  simp [keys, mapValues]

example : (ofList [("b", 1), ("10", 2), ("a", 3), ("2", 4), ("b", 5)]) =
    [("2", 4), ("10", 2), ("b", 5), ("a", 3)] := by cbv

end Entries

end OAuthClient
