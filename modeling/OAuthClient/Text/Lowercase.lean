import OAuthClient.Text.CaseTable

/-!
# Lower case

The full lower-case form of a text, independent of any language: one character may become two, and a
capital sigma becomes a final one at the end of a word.

## Main declarations

* `Text.lowerChar`: the lower-case form of a character on its own.
* `Text.isFinalSigma`: whether a capital sigma stands at the end of a word.
* `Text.lowercase`: the lower-case form of a text.
-/

namespace OAuthClient

namespace Text

/-- The lower-case form of a code point, by the table. -/
def lowerCode (n : Nat) : Nat :=
  match lowerCaseRanges.find? (·.contains n) with
  | some r => (n + r.shift).toNat
  | none => n

/-- The lower-case form of a character on its own; that of `İ` has two characters. -/
def lowerChar (c : Char) : List Char :=
  if c = 'İ' then ['i', '\u0307'] else [Char.ofNat (lowerCode c.toNat)]

/-- Whether a character has case and is not ignorable. -/
def isCased (c : Char) : Bool := inRanges casedRanges c.toNat

/-- Whether a character is ignorable in a case context. -/
def isCaseIgnorable (c : Char) : Bool := inRanges caseIgnorableRanges c.toNat

/-- Whether the first character that is not ignorable has case. -/
def startsCased (cs : List Char) : Bool :=
  (cs.dropWhile isCaseIgnorable).head?.any isCased

/-- Whether a sigma stands at the end of a word: a character with case before it, none after it.
`before` holds the characters before it from the nearest on. -/
def isFinalSigma (before after : List Char) : Bool :=
  startsCased before && !startsCased after

/-- The lower-case form of `cs`, which follows the reversed `before`. -/
def lowerAfter (before : List Char) : List Char → List Char
  | [] => []
  | c :: cs =>
    (if c = 'Σ' then [if isFinalSigma before cs then 'ς' else 'σ'] else lowerChar c)
      ++ lowerAfter (c :: before) cs

/-- The lower-case form of a text. -/
def lowercase (s : String) : String := String.ofList (lowerAfter [] s.toList)

example : lowercase "ÀΣ.σΣ İ\u212a" = "àσ.σς i\u0307k" := by decide +kernel

end Text

end OAuthClient
