/-!
# Base64 for URLs

Four characters of an alphabet of 64 write three octets; a last group of two or three characters
writes one or two.

## Main declarations

* `Base64Url.sextet?`: the six bits that a character writes.
* `Base64Url.decode?`: the octets that characters write. Bits that fill no octet are dropped.
-/

namespace OAuthClient

namespace Base64Url

/-- The six bits that a character writes. -/
def sextet? (c : Char) : Option Nat :=
  if c.isUpper then some (c.toNat - 'A'.toNat)
  else if c.isLower then some (c.toNat - 'a'.toNat + 26)
  else if c.isDigit then some (c.toNat - '0'.toNat + 52)
  else if c = '-' then some 62
  else if c = '_' then some 63
  else none

/-- The octets in groups of six bits. -/
def octets : List Nat → List UInt8
  | a :: b :: c :: d :: rest =>
    let n := ((a * 64 + b) * 64 + c) * 64 + d
    UInt8.ofNat (n / 65536) :: UInt8.ofNat (n / 256) :: UInt8.ofNat n :: octets rest
  | [a, b, c] =>
    let n := (a * 64 + b) * 64 + c
    [UInt8.ofNat (n / 1024), UInt8.ofNat (n / 4)]
  | [a, b] => [UInt8.ofNat ((a * 64 + b) / 16)]
  | _ => []

/-- The octets that characters of the alphabet write. -/
def decode? (cs : List Char) : Option (List UInt8) := (cs.mapM sextet?).map octets

example : decode? "AQID_-8".toList = some [1, 2, 3, 255, 239] ∧ decode? "A".toList = some [] ∧
    decode? "A+".toList = none := by decide +kernel

end Base64Url

end OAuthClient
