import OAuthClient.Text.Digits
import OAuthClient.Text.Segments
import OAuthClient.Text.Utf8

/-!
# Form encoding

Named parameters in a query: ASCII letters, digits and `*-._` stand for themselves, a space is a
plus sign, and every other octet of the UTF-8 form is written as a percent sign and two digits.

## Main declarations

* `Form.encodeText`, `Form.encode`: the written form of a text and of parameters.
* `Form.decodeText`, `Form.decode`: the text and the parameters that characters write.
-/

namespace OAuthClient

namespace Form

/-- A hexadecimal digit. -/
def hexDigit (n : Nat) : Char := (Nat.digitChar n).toUpper

/-- Whether an octet stands for itself. -/
def isPlain (b : UInt8) : Bool :=
  let c := Char.ofNat b.toNat
  c.isAlphanum || c ∈ ['*', '-', '.', '_']

/-- The written form of an octet. -/
def encodeByte (b : UInt8) : List Char :=
  if b = 0x20 then ['+']
  else if isPlain b then [Char.ofNat b.toNat]
  else ['%', hexDigit (b.toNat / 16), hexDigit (b.toNat % 16)]

/-- The written form of a text. -/
def encodeText (s : String) : List Char := (Text.utf8Bytes s.toList).flatMap encodeByte

/-- The written form of a parameter. -/
def encodePair (p : String × String) : List Char := encodeText p.1 ++ '=' :: encodeText p.2

/-- The written form of parameters. -/
def encode (ps : List (String × String)) : List Char := Text.joinWith '&' (ps.map encodePair)

/-- The octets that characters write. A percent sign without two digits stands for itself. -/
def decodeBytes : List Char → List UInt8
  | [] => []
  | '+' :: cs => 0x20 :: decodeBytes cs
  | '%' :: a :: b :: cs =>
    match Text.hexNumber? [a, b] with
    | some n => UInt8.ofNat n :: decodeBytes cs
    | none => 0x25 :: decodeBytes (a :: b :: cs)
  | c :: cs => Text.utf8Bytes [c] ++ decodeBytes cs

/-- The text that characters write. -/
def decodeText (cs : List Char) : String := String.ofList (Text.utf8Chars (decodeBytes cs))

/-- The parameter that characters write: its name ends at the first equals sign. -/
def decodePair (cs : List Char) : String × String :=
  (decodeText (cs.takeWhile (· ≠ '=')), decodeText ((cs.dropWhile (· ≠ '=')).drop 1))

/-- The parameters that characters write. Empty ones are left out. -/
def decode (cs : List Char) : List (String × String) :=
  ((Text.cut '&' cs).filter (· ≠ [])).map decodePair

example : encode [("a b", "é&="), ("", "x")] = "a+b=%C3%A9%26%3D&=x".toList := by decide +kernel
example : decode "a+b=%C3%A9%26%3D&&=x&%4&c=d=e".toList =
    [("a b", "é&="), ("", "x"), ("%4", ""), ("c", "d=e")] := by decide +kernel

end Form

end OAuthClient
