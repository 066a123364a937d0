/-!
# Blank characters

The characters that surround a text without belonging to it: white space, line ends and the
byte-order mark.

## Main declarations

* `Text.isBlank`: whether a character is blank; `isBlank_of_isWhitespace` compares it with core's
  class.
* `Text.trim`: a text without its leading and trailing blanks.
-/

namespace OAuthClient

namespace Text

/-- The code points of the blank characters. -/
def blankRanges : List (Nat × Nat) :=
  [(0x09, 0x0D), (0x20, 0x20), (0xA0, 0xA0), (0x1680, 0x1680), (0x2000, 0x200A), (0x2028, 0x2029),
   (0x202F, 0x202F), (0x205F, 0x205F), (0x3000, 0x3000), (0xFEFF, 0xFEFF)]

/-- Whether a character is blank. -/
def isBlank (c : Char) : Bool := blankRanges.any fun r => r.1 ≤ c.toNat && c.toNat ≤ r.2

/-- The characters without leading and trailing blanks. -/
def trimChars (cs : List Char) : List Char :=
  ((cs.dropWhile isBlank).reverse.dropWhile isBlank).reverse

/-- A text without its leading and trailing blanks. -/
def trim (s : String) : String := String.ofList (trimChars s.toList)

theorem isBlank_of_isWhitespace {c : Char} (h : c.isWhitespace) : isBlank c := by
  simp only [Char.isWhitespace, Bool.or_eq_true, decide_eq_true_eq] at h
  rcases h with ((rfl | rfl) | rfl) | rfl <;> decide

example : trim "\u00a0 a b\ufeff\n" = "a b" ∧ trim "\u0085x\u200b" = "\u0085x\u200b" := by
  decide +kernel

end Text

end OAuthClient
