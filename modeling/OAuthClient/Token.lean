import OAuthClient.Json
import OAuthClient.Text.Base64Url
import OAuthClient.Text.Segments
import OAuthClient.Text.Utf8

/-!
# Tokens

A token is three parts between dots: a header and a payload, both JSON in base64, and a signature of
the text before it.

## Main declarations

* `Token`: a decoded token.
* `Token.split?`: the parts of a text.
* `Token.decode`: the token that a text writes; `Token.DecodeError` says why there is none.
-/

namespace OAuthClient

/-- A decoded token. -/
structure Token where
  /-- The header and the payload as they are written, which is what is signed. -/
  signed : List Char
  header : Value
  payload : Value
  /-- The signature as it is written. -/
  signature : List Char
  deriving DecidableEq, Repr

namespace Token

/-- Why a text is no token. -/
inductive DecodeError where
  /-- The payload should be JSON and is not. -/
  | payloadNotJson
  /-- It is no token for another reason. -/
  | malformed
  deriving DecidableEq, Repr

/-- The parts of a text, if there are three in the alphabet of base64 and only the last one may be
empty. -/
def split? (s : String) : Option (List Char × List Char × List Char) :=
  match Text.cut '.' s.toList with
  | [header, payload, signature] =>
    let written (part : List Char) : Bool := part.all fun c => (Base64Url.sextet? c).isSome
    if header ≠ [] ∧ payload ≠ [] ∧ written header ∧ written payload ∧ written signature then
      some (header, payload, signature)
    else none
  | _ => none

/-- The octets of a part. -/
def octets (part : List Char) : List UInt8 := (Base64Url.decode? part).getD []

/-- Whether a value counts as present: anything but null, false, zero and the empty text. -/
def isPresent : Value → Bool
  | .null => false
  | .bool b => b
  | .num n => !n.equal (.ofNat 0)
  | .text s => s ≠ ""
  | .list _ | .map _ | .function _ => true

/-- The header of a token. Each octet is a character. -/
def readHeader? (part : List Char) : Option Value :=
  (Json.read? ((octets part).map fun b => Char.ofNat b.toNat)).filter isPresent

/-- The list or map that a text writes. -/
def collection? (cs : List Char) : Option Value :=
  match Json.read? cs with
  | some (.list xs) => some (.list xs)
  | some (.map es) => some (.map es)
  | _ => none

/-- The payload of a token. It has to be JSON if the header says that this is a token of that
type, and otherwise a list or a map. What is JSON and a text has to be the written form of a list
or a map. -/
def readPayload (header : Value) (part : List Char) : Except DecodeError Value :=
  let cs := Text.utf8Chars (octets part)
  if header.get? "typ" = some (.text "JWT") then
    match Json.read? cs with
    | none => .error .payloadNotJson
    | some (.text s) => (collection? s.toList).elim (.error .malformed) .ok
    | some v => .ok v
  else (collection? cs).elim (.error .malformed) .ok

/-- The token that a text writes. -/
def decode (s : String) : Except DecodeError Token :=
  match split? s with
  | none => .error .malformed
  | some (header, payload, signature) =>
    match readHeader? header with
    | none => .error .malformed
    | some value => (readPayload value payload).map fun claims =>
      { signed := header ++ '.' :: payload, header := value, payload := claims, signature }

example : (decode "e30.e30.").toOption = some ⟨"e30.e30".toList, .map [], .map [], []⟩ := by
  decide +kernel
example : decode "e30.e30" matches .error .malformed := by decide +kernel

end Token

end OAuthClient
