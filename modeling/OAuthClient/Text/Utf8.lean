import OAuthClient.Text.Units

/-!
# UTF-8

## Main declarations

* `Text.utf8Bytes`: the octets of some characters.
* `Text.utf8Chars`: the characters of some octets. Where octets are malformed, each longest start
  of a sequence gives one replacement character.
-/

namespace OAuthClient

namespace Text

/-- The octets of some characters. -/
def utf8Bytes (cs : List Char) : List UInt8 := cs.flatMap String.utf8EncodeChar

/-- A started sequence: the code point so far, the number of octets that it still needs, and the
range of the next one. -/
structure Utf8Pending where
  code : Nat
  needed : Nat
  lower : Nat := 0x80
  upper : Nat := 0xBF

/-- The character in place of a malformed sequence. -/
def replacement : Char := '\ufffd'

/-- The characters that an octet completes at the start of a sequence, and the sequence it starts.
-/
def utf8Start (b : Nat) : List Char × Option Utf8Pending :=
  if b < 0x80 then ([Char.ofNat b], none)
  else if 0xC2 ≤ b && b ≤ 0xDF then ([], some { code := b - 0xC0, needed := 1 })
  else if 0xE0 ≤ b && b ≤ 0xEF then
    ([], some { code := b - 0xE0, needed := 2, lower := if b = 0xE0 then 0xA0 else 0x80,
                upper := if b = 0xED then 0x9F else 0xBF })
  else if 0xF0 ≤ b && b ≤ 0xF4 then
    ([], some { code := b - 0xF0, needed := 3, lower := if b = 0xF0 then 0x90 else 0x80,
                upper := if b = 0xF4 then 0x8F else 0xBF })
  else ([replacement], none)

/-- The characters that an octet completes, and the sequence that is started after it. -/
def utf8Step (pending : Option Utf8Pending) (b : Nat) : List Char × Option Utf8Pending :=
  match pending with
  | none => utf8Start b
  | some p =>
    if p.lower ≤ b && b ≤ p.upper then
      let code := p.code * 0x40 + (b - 0x80)
      if p.needed ≤ 1 then ([charOfCode code], none)
      else ([], some { code, needed := p.needed - 1 })
    else
      let (cs, next) := utf8Start b
      (replacement :: cs, next)

/-- The characters of octets after a started sequence. -/
def utf8CharsFrom (pending : Option Utf8Pending) : List UInt8 → List Char
  | [] => if pending.isSome then [replacement] else []
  | b :: bs =>
    let (cs, next) := utf8Step pending b.toNat
    cs ++ utf8CharsFrom next bs

/-- The characters of some octets. -/
def utf8Chars (bs : List UInt8) : List Char := utf8CharsFrom none bs

example : utf8Chars (utf8Bytes "aé€😀".toList) = "aé€😀".toList := by decide +kernel
example : utf8Chars [0xE2, 0x82, 0x41, 0xF0, 0x80, 0xFF] =
    ['\ufffd', 'A', '\ufffd', '\ufffd', '\ufffd'] := by decide +kernel

end Text

end OAuthClient
