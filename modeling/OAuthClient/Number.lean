/-!
# Numbers of a configuration

The numbers of a configuration are the binary floating-point numbers of 64 bits. A finite one is
held as sign, mantissa and exponent, so that every operation is exact arithmetic followed by one
rounding to nearest, ties to even.

## Main declarations

* `Number`: not-a-number, the infinities, and `± m · 2^e`.
* `Number.Normal`: the one representation that each value has.
* `Number.ofRatio`: the number nearest to a quotient of naturals.
* `Number.ofDecimal`, `Number.ofInt`: the number nearest to a decimal, and to an integer.
* `Number.add`, `Number.lt`, `Number.equal`: rounded sum, order, and equality of values.
-/

namespace OAuthClient

-- Powers are those of core, whatever else is imported.
attribute [local instance (high)] instPowNat

/-- A binary floating-point number of 64 bits; `finite s m e` is `(-1)^s · m · 2^e`. -/
inductive Number where
  | nan
  | infinite (negative : Bool)
  | finite (negative : Bool) (mantissa : Nat) (exponent : Int)
  deriving DecidableEq, Repr, Inhabited

namespace Number

/-- The number of bits of a mantissa. -/
def precision : Nat := 53

/-- The least exponent of a finite number. -/
def minExponent : Int := -1074

/-- The greatest exponent of a finite number. -/
def maxExponent : Int := 971

/-- The representation that each value has: 53 bits of mantissa, all of them used unless the
exponent is the least one. -/
def Normal : Number → Prop
  | nan | infinite _ => True
  | finite _ m e =>
    m < 2 ^ precision ∧ minExponent ≤ e ∧ e ≤ maxExponent ∧
      (2 ^ (precision - 1) ≤ m ∨ e = minExponent)

/-! ### Rounding -/

/-- The integer nearest to `num / den`, and of two the even one. -/
def roundedQuotient (num den : Nat) : Nat :=
  let q := num / den
  let r := num % den
  if 2 * r < den then q
  else if den < 2 * r then q + 1
  else if q % 2 = 0 then q else q + 1

/-- The integer nearest to `num / den / 2^e`. -/
def mantissaAt (num den : Nat) (e : Int) : Nat :=
  if 0 ≤ e then roundedQuotient num (den <<< e.toNat)
  else roundedQuotient (num <<< (-e).toNat) den

/-- The exponent at which `num / den` has 53 bits, or the least one if it has fewer. -/
def exponentFor (num den : Nat) : Int :=
  let d : Int := (Nat.log2 num : Int) - Nat.log2 den
  let below : Bool :=
    if 0 ≤ d then num < den <<< d.toNat else num <<< (-d).toNat < den
  max (if below then d - 53 else d - 52) minExponent

/-- The number nearest to `num / den`; a quotient too great for a finite number is infinite. -/
def ofRatio (negative : Bool) (num den : Nat) : Number :=
  if num = 0 then finite negative 0 minExponent
  else
    let e := exponentFor num den
    let m := mantissaAt num den e
    let carried := m = 2 ^ precision
    let m' := if carried then 2 ^ (precision - 1) else m
    let e' := if carried then e + 1 else e
    if maxExponent < e' then infinite negative else finite negative m' e'

/-- The number nearest to `digits · 10^exponent`. Exponents so great or so small that the result is
infinite or zero whatever the digits are answered without computing the power. -/
def ofDecimal (negative : Bool) (digits : Nat) (exponent : Int) : Number :=
  if digits = 0 then finite negative 0 minExponent
  else if 400 < exponent then infinite negative
  else if exponent < -(400 + (Nat.log2 digits : Int)) then finite negative 0 minExponent
  else if 0 ≤ exponent then ofRatio negative (digits * 10 ^ exponent.toNat) 1
  else ofRatio negative digits (10 ^ (-exponent).toNat)

/-- The number nearest to an integer. -/
def ofInt (i : Int) : Number := ofRatio (i < 0) i.natAbs 1

/-- The number nearest to a natural. -/
def ofNat (n : Nat) : Number := ofRatio false n 1

/-! ### Values -/

/-- A finite number in units of the least positive one. -/
def units (negative : Bool) (m : Nat) (e : Int) : Int :=
  let magnitude : Nat := m <<< (e - minExponent).toNat
  if negative then -magnitude else magnitude

/-- The integer that a number is, if it is one. -/
def toInt? : Number → Option Int
  | nan | infinite _ => none
  | finite s m e =>
    let magnitude? : Option Nat :=
      if 0 ≤ e then some (m <<< e.toNat)
      else if m % 2 ^ (-e).toNat = 0 then some (m / 2 ^ (-e).toNat) else none
    magnitude?.map fun n => if s then -(n : Int) else n

/-- The negative zero, which is equal to zero. -/
def isNegativeZero : Number → Bool
  | finite true 0 _ => true
  | _ => false

/-- Whether the first number is less than the second; no number is less or greater than
not-a-number. -/
def lt : Number → Number → Bool
  | nan, _ | _, nan => false
  | infinite s, infinite t => s && !t
  | infinite s, finite .. => s
  | finite .., infinite t => !t
  | finite s m e, finite t n f => units s m e < units t n f

/-- Whether two numbers have the same value: the zeros are equal, not-a-number equals nothing. -/
def equal : Number → Number → Bool
  | nan, _ | _, nan => false
  | infinite s, infinite t => s == t
  | finite s m e, finite t n f => units s m e == units t n f
  | _, _ => false

/-- The number nearest to the sum. -/
def add : Number → Number → Number
  | nan, _ | _, nan => nan
  | infinite s, infinite t => if s == t then infinite s else nan
  | infinite s, finite .. => infinite s
  | finite .., infinite t => infinite t
  | finite s m e, finite t n f =>
    let sum := units s m e + units t n f
    ofRatio (if sum = 0 then s && t else sum < 0) sum.natAbs (2 ^ (-minExponent).toNat)

/-! ### Small laws -/

@[simp] theorem nan_lt (x : Number) : lt nan x = false := by cases x <;> rfl

@[simp] theorem lt_nan (x : Number) : lt x nan = false := by cases x <;> rfl

/-- The rounded quotient is at most half a unit off. -/
theorem two_mul_roundedQuotient_le (num den : Nat) :
    2 * (roundedQuotient num den * den) ≤ 2 * num + den := by
  have h := Nat.div_add_mod num den
  have hc : num / den * den = den * (num / den) := Nat.mul_comm _ _
  unfold roundedQuotient
  simp only
  split
  · omega
  · split
    · rw [Nat.add_mul]; omega
    · split
      · omega
      · rw [Nat.add_mul]; omega

example : ofRatio false 1 10 = finite false 7205759403792794 (-56) := by decide +kernel
example : ofNat 443 = finite false 7793338417676288 (-44) := by decide +kernel
example : ofDecimal false 1 400 = infinite false ∧
    ofDecimal true 5 (-324) = finite true 1 (-1074) := by
  decide +kernel
example : toInt? (ofInt (-7)) = some (-7) ∧ toInt? (ofRatio false 1 2) = none := by
  decide +kernel

end Number

end OAuthClient
