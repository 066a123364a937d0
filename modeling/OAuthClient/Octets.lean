/-!
# Numbers as octets

## Main declarations

* `Octets.toNat`, `Octets.ofNat`: the number that octets write, the most significant one first,
  and the octets of a number.
* `Octets.groups`: octets in groups of a size.
-/

namespace OAuthClient

-- Powers are those of core, whatever else is imported.
attribute [local instance (high)] instPowNat

namespace Octets

/-- The number that octets write. -/
def toNat (bs : List UInt8) : Nat := bs.foldl (fun n b => 256 * n + b.toNat) 0

/-- The last `size` octets of a number. -/
def ofNat : Nat → Nat → List UInt8
  | 0, _ => []
  | size + 1, n => ofNat size (n / 256) ++ [UInt8.ofNat n]

@[simp] theorem length_ofNat (size n : Nat) : (ofNat size n).length = size := by
  induction size generalizing n with
  | zero => rfl
  | succ size ih => simp [ofNat, ih]

theorem toNat_append_singleton (bs : List UInt8) (b : UInt8) :
    toNat (bs ++ [b]) = 256 * toNat bs + b.toNat := by
  simp [toNat]

/-- The octets of a number write the number, as far as they reach. -/
theorem toNat_ofNat (size n : Nat) : toNat (ofNat size n) = n % 256 ^ size := by
  induction size generalizing n with
  | zero => simp [ofNat, toNat, Nat.mod_one]
  | succ size ih =>
    rw [ofNat, toNat_append_singleton, ih, Nat.pow_succ']
    have h : (UInt8.ofNat n).toNat = n % 256 := by simp
    rw [h, Nat.mod_mul]
    omega

/-- Splits a list into groups of `size`, the last of which may be shorter. The list is at most as
long as `fuel`. -/
def groupsFrom {α : Type} (size : Nat) : Nat → List α → List (List α)
  | 0, _ => []
  | _, [] => []
  | fuel + 1, xs => xs.take size :: groupsFrom size fuel (xs.drop size)

/-- Splits a list into groups of `size`. -/
def groups {α : Type} (size : Nat) (xs : List α) : List (List α) := groupsFrom size xs.length xs

end Octets

end OAuthClient
