import OAuthClient.Value
import OAuthClient.Number.Decimal
import OAuthClient.Text.Digits
import OAuthClient.Text.Units

/-!
# Reading JSON

A text is read as one value with nothing but blanks around it. Of two entries with one key the later
holds, at the place of the first.

## Main declarations

* `Json.readString`: the characters of a string after its opening quote.
* `Json.readValue`, `Json.readItems`, `Json.readMembers`: a value, the items of a list and the
  entries of a map, each with the characters after it.
* `Json.read?`: the value that a text writes.
-/

namespace OAuthClient

namespace Json

/-- The blanks between tokens. -/
def isSpace (c : Char) : Bool := c = ' ' || c = '\t' || c = '\n' || c = '\x0d'

/-- Leaves out leading blanks. -/
def skipSpaces (cs : List Char) : List Char := cs.dropWhile isSpace

/-- The character that a one-letter escape stands for. -/
def escaped? : Char → Option Char
  | '"' => some '"'
  | '\\' => some '\\'
  | '/' => some '/'
  | 'b' => some '\x08'
  | 'f' => some '\x0c'
  | 'n' => some '\n'
  | 'r' => some '\x0d'
  | 't' => some '\t'
  | _ => none

/-- The units of a string up to its closing quote, and the characters after that. Control characters
have to be escaped. -/
def readUnits : List Char → Option (List Nat × List Char)
  | [] => none
  | '"' :: rest => some ([], rest)
  | '\\' :: 'u' :: a :: b :: c :: d :: rest => do
    let unit ← Text.hexNumber? [a, b, c, d]
    let (units, rest) ← readUnits rest
    some (unit :: units, rest)
  | '\\' :: c :: rest => do
    let e ← escaped? c
    let (units, rest) ← readUnits rest
    some (e.toNat :: units, rest)
  | c :: rest =>
    if c.toNat < 0x20 || c = '\\' then none
    else do
      let (units, rest) ← readUnits rest
      some (c.toNat :: units, rest)

/-- The text of a string after its opening quote, and the characters after its closing one. An escape
that is half of a surrogate pair without the other half is read as the replacement character U+FFFD.
-/
def readString (cs : List Char) : Option (String × List Char) :=
  (readUnits cs).map fun (units, rest) => (String.ofList (Text.charsOfUnits units), rest)

/-- Splits off a nonempty run of digits. -/
def digits? (cs : List Char) : Option (List Char × List Char) :=
  match cs.takeWhile Char.isDigit with
  | [] => none
  | ds => some (ds, cs.dropWhile Char.isDigit)

/-- Splits off the characters of a number: an optional minus, digits without a leading zero, an
optional fraction, an optional exponent. -/
def numeral? (cs : List Char) : Option (List Char × List Char) := do
  let (sign, cs) := match cs with
    | '-' :: r => (['-'], r)
    | r => ([], r)
  let (whole, cs) ← match cs with
    | '0' :: r => some (['0'], r)
    | r => digits? r
  let (fraction, cs) ← match cs with
    | '.' :: r => (digits? r).map fun (ds, r) => ('.' :: ds, r)
    | r => some ([], r)
  let (power, cs) ← match cs with
    | c :: r =>
      if c = 'e' ∨ c = 'E' then
        let (sign, r) := match r with
          | '+' :: r => (['+'], r)
          | '-' :: r => (['-'], r)
          | r => ([], r)
        (digits? r).map fun (ds, r) => ('e' :: sign ++ ds, r)
      else some ([], cs)
    | [] => some ([], [])
  some (sign ++ whole ++ fraction ++ power, cs)

mutual

/-- Reads a value at the first character. -/
def readValue : Nat → List Char → Option (Value × List Char)
  | 0, _ => none
  | fuel + 1, cs =>
    match cs with
    | 'n' :: 'u' :: 'l' :: 'l' :: rest => some (.null, rest)
    | 't' :: 'r' :: 'u' :: 'e' :: rest => some (.bool true, rest)
    | 'f' :: 'a' :: 'l' :: 's' :: 'e' :: rest => some (.bool false, rest)
    | '"' :: rest => (readString rest).map fun (s, rest) => (.text s, rest)
    | '[' :: rest =>
      match skipSpaces rest with
      | ']' :: rest => some (.list [], rest)
      | rest => (readItems fuel rest).map fun (items, rest) => (.list items, rest)
    | '\x7b' :: rest =>
      match skipSpaces rest with
      | '\x7d' :: rest => some (.map [], rest)
      | rest => (readMembers fuel rest).map fun (es, rest) => (.map (Entries.ofList es), rest)
    | cs => do
      let (text, rest) ← numeral? cs
      let n ← Number.ofText? text
      some (.num n, rest)

/-- Reads the items of a list from the first one to the closing bracket. -/
def readItems : Nat → List Char → Option (List Value × List Char)
  | 0, _ => none
  | fuel + 1, cs => do
    let (item, rest) ← readValue fuel (skipSpaces cs)
    match skipSpaces rest with
    | ',' :: rest => do
      let (items, rest) ← readItems fuel rest
      some (item :: items, rest)
    | ']' :: rest => some ([item], rest)
    | _ => none

/-- Reads the entries of a map from the first one to the closing brace. -/
def readMembers : Nat → List Char → Option (List (String × Value) × List Char)
  | 0, _ => none
  | fuel + 1, cs => do
    match skipSpaces cs with
    | '"' :: rest => do
      let (key, rest) ← readString rest
      match skipSpaces rest with
      | ':' :: rest => do
        let (value, rest) ← readValue fuel (skipSpaces rest)
        match skipSpaces rest with
        | ',' :: rest => do
          let (es, rest) ← readMembers fuel rest
          some ((key, value) :: es, rest)
        | '\x7d' :: rest => some ([(key, value)], rest)
        | _ => none
      | _ => none
    | _ => none

end

/-- The value that a text writes, if it is JSON. Every step of the reader takes a character, so the
length of the text bounds their number. -/
def read? (cs : List Char) : Option Value :=
  match readValue (2 * cs.length + 2) (skipSpaces cs) with
  | some (v, rest) => if (skipSpaces rest).isEmpty then some v else none
  | none => none

example : read? " [1, \x7b\"b\": \"\\u00e9\", \"1\": null\x7d ] ".toList =
    some (.list [.num (.ofNat 1), .map [("1", .null), ("b", .text "é")]]) := by decide +kernel
example : read? "[1,]".toList = none ∧ read? "01".toList = none ∧ read? "1 2".toList = none := by
  decide +kernel

end Json

end OAuthClient
