import OAuthClient.Entries
import OAuthClient.Number

/-!
# Configuration values

What a configuration holds under a name: nothing, a truth value, a number, a text, a list, a map, or
a function of the program that it is made in. No file holds a function.

## Main declarations

* `Value`: a value, with decidable equality.
* `Value.Kind`: the kinds of values as reports name them.
* `Value.at?`: the value at a path of keys.
-/

namespace OAuthClient

/-- A value of a configuration. -/
inductive Value where
  | null
  | bool (value : Bool)
  | num (value : Number)
  | text (value : String)
  | list (items : List Value)
  | map (entries : List (String × Value))
  /-- A function, by its name. -/
  | function (name : String)
  deriving Repr, Inhabited

namespace Value

/-! ### Equality -/

mutual

/-- Decides whether two values are equal. -/
def decEq : (a b : Value) → Decidable (a = b)
  | null, null => isTrue rfl
  | bool a, bool b => decidable_of_iff (a = b) (by simp)
  | num a, num b => decidable_of_iff (a = b) (by simp)
  | text a, text b => decidable_of_iff (a = b) (by simp)
  | list a, list b => @decidable_of_iff _ (a = b) (by simp) (decEqList a b)
  | map a, map b => @decidable_of_iff _ (a = b) (by simp) (decEqEntries a b)
  | function a, function b => decidable_of_iff (a = b) (by simp)
  | null, bool _ | null, num _ | null, text _ | null, list _ | null, map _ | null, function _
  | bool _, null | bool _, num _ | bool _, text _ | bool _, list _ | bool _, map _
  | bool _, function _ | num _, null | num _, bool _ | num _, text _ | num _, list _
  | num _, map _ | num _, function _ | text _, null | text _, bool _ | text _, num _
  | text _, list _ | text _, map _ | text _, function _ | list _, null | list _, bool _
  | list _, num _ | list _, text _ | list _, map _ | list _, function _ | map _, null
  | map _, bool _ | map _, num _ | map _, text _ | map _, list _ | map _, function _
  | function _, null | function _, bool _ | function _, num _ | function _, text _
  | function _, list _ | function _, map _ => isFalse (by intro h; cases h)

/-- Decides whether two lists of values are equal. -/
def decEqList : (a b : List Value) → Decidable (a = b)
  | [], [] => isTrue rfl
  | [], _ :: _ | _ :: _, [] => isFalse (by intro h; cases h)
  | x :: xs, y :: ys =>
    match decEq x y, decEqList xs ys with
    | isTrue h, isTrue h' => isTrue (by rw [h, h'])
    | isFalse h, _ => isFalse (by intro e; cases e; exact h rfl)
    | _, isFalse h => isFalse (by intro e; cases e; exact h rfl)

/-- Decides whether two lists of entries are equal. -/
def decEqEntries : (a b : List (String × Value)) → Decidable (a = b)
  | [], [] => isTrue rfl
  | [], _ :: _ | _ :: _, [] => isFalse (by intro h; cases h)
  | (k, x) :: xs, (l, y) :: ys =>
    match decEq x y, decEqEntries xs ys with
    | isTrue h, isTrue h' =>
      if hk : k = l then isTrue (by rw [h, h', hk]) else isFalse (by intro e; cases e; exact hk rfl)
    | isFalse h, _ => isFalse (by intro e; cases e; exact h rfl)
    | _, isFalse h => isFalse (by intro e; cases e; exact h rfl)

end

instance : DecidableEq Value := decEq

/-! ### Kinds -/

/-- The kinds of values as reports name them; not-a-number is a kind of its own. -/
inductive Kind where
  | null | boolean | number | nan | string | array | object | function
  deriving DecidableEq, Repr

/-- The name of a kind in a report. -/
def Kind.name : Kind → String
  | null => "null"
  | boolean => "boolean"
  | number => "number"
  | nan => "nan"
  | string => "string"
  | array => "array"
  | object => "object"
  | function => "function"

/-- The kind of a value. -/
def kind : Value → Kind
  | null => .null
  | bool _ => .boolean
  | num .nan => .nan
  | num _ => .number
  | text _ => .string
  | list _ => .array
  | map _ => .object
  | function _ => .function

/-! ### Reading -/

/-- The entries of a map. -/
def entries? : Value → Option (Entries Value)
  | map es => some es
  | _ => none

/-- The value under a key, if this is a map that has it. -/
def get? (v : Value) (key : String) : Option Value :=
  v.entries?.bind (Entries.get? · key)

/-- The value at a path of keys, if every step leads through a map. -/
def at? : Value → List String → Option Value
  | v, [] => some v
  | v, key :: keys => (v.get? key).bind (at? · keys)

@[simp] theorem at?_nil (v : Value) : v.at? [] = some v := rfl

theorem at?_append (v : Value) (keys more : List String) :
    v.at? (keys ++ more) = (v.at? keys).bind (at? · more) := by
  induction keys generalizing v with
  | nil => rfl
  | cons key keys ih =>
    simp only [List.cons_append, at?]
    cases v.get? key with
    | none => rfl
    | some w => simpa using ih w

end Value

end OAuthClient
