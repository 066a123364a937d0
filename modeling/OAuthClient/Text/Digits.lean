/-!
# Digits

## Main declarations

* `Text.digitsValue`: the number that decimal digits write.
* `Text.hexValue?`, `Text.hexNumber?`: hexadecimal digits and numbers.
-/

namespace OAuthClient

namespace Text

/-- The number that decimal digits write. -/
def digitsValue (cs : List Char) : Nat :=
  cs.foldl (fun n c => 10 * n + (c.toNat - '0'.toNat)) 0

/-- The value of a hexadecimal digit. -/
def hexValue? (c : Char) : Option Nat :=
  if c.isDigit then some (c.toNat - '0'.toNat)
  else if 'a' ≤ c ∧ c ≤ 'f' then some (c.toNat - 'a'.toNat + 10)
  else if 'A' ≤ c ∧ c ≤ 'F' then some (c.toNat - 'A'.toNat + 10)
  else none

/-- The number that hexadecimal digits write; there has to be at least one. -/
def hexNumber? (cs : List Char) : Option Nat :=
  if cs.isEmpty then none
  else cs.foldl (fun acc c => acc.bind fun n => (hexValue? c).map (16 * n + ·)) (some 0)

example : digitsValue ['0', '1', '2'] = 12 ∧ hexNumber? ['f', 'F'] = some 255 ∧
    hexNumber? ['g'] = none := by decide

end Text

end OAuthClient
