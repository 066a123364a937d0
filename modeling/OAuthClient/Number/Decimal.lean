import OAuthClient.Number
import OAuthClient.Text.Digits

/-!
# Numbers as decimal text

A number is written with the fewest digits that read back as it, and among those with the digits
nearest to it. `Layout` says where the point goes and when an exponent is written.

## Main declarations

* `Number.shortest`: the digits and the power of ten.
* `Layout.plain`, `Layout.exponential`: positional notation for values from 10⁻⁶ up to 10²¹, and
  none.
* `Number.write`, `Number.toText`: the text of a number in a layout, and in the plain one.
* `Number.ofText?`: reads a decimal with optional sign, fraction and exponent.
-/

namespace OAuthClient

-- Powers are those of core, whatever else is imported.
attribute [local instance (high)] instPowNat

namespace Number

/-! ### The fewest digits that read back -/

/-- Compares `a · 10^q` with `b · 2^k`. -/
def compareScaled (a : Nat) (q : Int) (b : Nat) (k : Int) : Ordering :=
  compare (a * 10 ^ q.toNat * 2 ^ (-k).toNat) (b * 2 ^ k.toNat * 10 ^ (-q).toNat)

/-- The least power of ten above `m · 2^e`, for a positive `m`. -/
def decimalMagnitude (m : Nat) (e : Int) : Int :=
  let estimate := Int.fdiv (((Nat.log2 m : Int) + e) * 30103) 100000
  if compareScaled 1 estimate m e = .gt then estimate
  else if compareScaled 1 (estimate + 1) m e = .gt then estimate + 1
  else estimate + 2

/-- Whether `s · 10^q` reads back as `m · 2^e`: it lies between the midpoints to the neighbours,
which themselves belong to the number with an even mantissa. -/
def readsBack (m : Nat) (e : Int) (s : Nat) (q : Int) : Bool :=
  let low := 4 * m - (if m = 2 ^ (precision - 1) ∧ minExponent < e then 1 else 2)
  let high := 4 * m + 2
  let aboveLow := compareScaled s q low (e - 2)
  let belowHigh := compareScaled s q high (e - 2)
  (aboveLow = .gt || (aboveLow = .eq && m % 2 = 0)) &&
    (belowHigh = .lt || (belowHigh = .eq && m % 2 = 0))

/-- The multiple of `10^q` that reads back as `m · 2^e`, of two the nearer, of two as near the even
one. -/
def digitsOnGrid? (m : Nat) (e : Int) (q : Int) : Option Nat :=
  let d := (m * 2 ^ e.toNat * 10 ^ (-q).toNat) / (10 ^ q.toNat * 2 ^ (-e).toNat)
  match d ≠ 0 && readsBack m e d q, readsBack m e (d + 1) q with
  | false, false => none
  | true, false => some d
  | false, true => some (d + 1)
  | true, true =>
    match compareScaled (2 * d + 1) q (2 * m) e with
    | .gt => some d
    | .lt => some (d + 1)
    | .eq => some (if d % 2 = 0 then d else d + 1)

/-- Moves the trailing zeros of the digits into the power of ten. -/
def stripZeros : Nat → Nat → Int → Nat × Int
  | 0, s, q => (s, q)
  | fuel + 1, s, q => if s ≠ 0 ∧ s % 10 = 0 then stripZeros fuel (s / 10) (q + 1) else (s, q)

/-- The fewest digits `s` and the power `q` such that `s · 10^q` reads back as `m · 2^e`, for a
positive `m`. Seventeen digits always do. -/
def shortest (m : Nat) (e : Int) : Nat × Int :=
  let p := decimalMagnitude m e
  let found := (List.range 17).findSome? fun (n : Nat) =>
    let q := p - ((n : Int) + 1)
    (digitsOnGrid? m e q).map fun s => (s, q)
  match found with
  | some (s, q) => stripZeros 18 s q
  | none => (0, 0)

/-! ### Layout -/

/-- Where positional notation ends: it is kept for a point at most `largest` places to the right of
the first digit, and for at most `leadingZeros` zeros between point and first digit. -/
structure Layout where
  largest : Int
  leadingZeros : Int

/-- Positional below 10²¹ and from 10⁻⁶ on. -/
def Layout.plain : Layout := ⟨21, 5⟩

/-- Always with an exponent. -/
def Layout.exponential : Layout := ⟨0, -1⟩

/-- Writes digits whose point stands `point` places to the right of the first one. -/
def Layout.write (layout : Layout) (digits : List Char) (point : Int) : String :=
  let count : Int := digits.length
  if 0 < point ∧ point ≤ layout.largest then
    if count ≤ point then
      String.ofList (digits ++ List.replicate (point - count).toNat '0')
    else
      String.ofList (digits.take point.toNat ++ '.' :: digits.drop point.toNat)
  else if point ≤ 0 ∧ -point ≤ layout.leadingZeros then
    String.ofList ('0' :: '.' :: List.replicate (-point).toNat '0' ++ digits)
  else
    let power := point - 1
    let sign := if power < 0 then '-' else '+'
    let fraction := match digits with
      | _ :: d :: ds => '.' :: d :: ds
      | _ => []
    String.ofList (digits.take 1 ++ fraction ++ 'e' :: sign :: Nat.toDigits 10 power.natAbs)

/-- The text of a number in a layout. Both zeros are written without a sign. -/
def write (layout : Layout) : Number → String
  | nan => "NaN"
  | infinite false => "Infinity"
  | infinite true => "-Infinity"
  | finite _ 0 _ => layout.write ['0'] 1
  | finite s m e =>
    let (digits, q) := shortest m e
    let cs := Nat.toDigits 10 digits
    let text := layout.write cs (cs.length + q)
    if s then "-" ++ text else text

/-- The text of a number. -/
def toText (n : Number) : String := n.write .plain

/-! ### Reading -/

/-- Splits off an optional sign; the flag tells a minus. -/
def splitSign : List Char → Bool × List Char
  | '-' :: cs => (true, cs)
  | '+' :: cs => (false, cs)
  | cs => (false, cs)

/-- Reads a decimal: an optional sign, digits with an optional point among, before or after them,
and an optional exponent. The result is the nearest number. -/
def ofText? (text : List Char) : Option Number :=
  let (negative, cs) := splitSign text
  let whole := cs.takeWhile Char.isDigit
  let afterWhole := cs.dropWhile Char.isDigit
  let (fraction, afterFraction) := match afterWhole with
    | '.' :: r => (r.takeWhile Char.isDigit, r.dropWhile Char.isDigit)
    | r => ([], r)
  let digits := whole ++ fraction
  let scale : Int := -(fraction.length : Int)
  if digits.isEmpty then none
  else match afterFraction with
    | [] => some (ofDecimal negative (Text.digitsValue digits) scale)
    | c :: r =>
      if c = 'e' ∨ c = 'E' then
        let (down, power) := splitSign r
        if power.isEmpty || !power.all Char.isDigit then none
        else
          let power : Int := Text.digitsValue power
          let scale := scale + if down then -power else power
          some (ofDecimal negative (Text.digitsValue digits) scale)
      else none

example : toText (ofRatio false 1 10) = "0.1" := by decide +kernel
example : toText (ofDecimal false 1 21) = "1e+21" ∧
    toText (ofDecimal false 15 (-8)) = "1.5e-7" := by
  decide +kernel
example : toText (ofDecimal false 12345678901234567890 0) = "12345678901234567000" := by
  decide +kernel
example : toText (ofDecimal true 5 (-324)) = "-5e-324" ∧ toText (ofNat 0) = "0" ∧
    (ofNat 1200).write .exponential = "1.2e+3" := by decide +kernel
example : (ofText? "+.5".toList).map toText = some "0.5" := by decide +kernel

end Number

end OAuthClient
