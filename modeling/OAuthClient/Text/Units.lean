/-!
# Characters from escaped units

Escapes write a character as one code point or as two units of 16 bits, a high and a low surrogate.

## Main declarations

* `Text.charsOfUnits`: the characters that code points and surrogate pairs write.
* `Text.charsOfUnits_toNat`: characters are written by their own code points.
* `Text.unitCount`: the number of units that characters take.
-/

namespace OAuthClient

namespace Text

/-- Whether a number is a high surrogate, the first unit of a pair. -/
def isHighSurrogate (n : Nat) : Bool := 0xD800 ≤ n && n < 0xDC00

/-- Whether a number is a low surrogate, the second unit of a pair. -/
def isLowSurrogate (n : Nat) : Bool := 0xDC00 ≤ n && n < 0xE000

/-- The character with a code point; a surrogate or a number out of range has none and is
replaced. -/
def charOfCode (n : Nat) : Char :=
  if n.isValidChar then Char.ofNat n else '\ufffd'

/-- The characters that code points write, a pair of surrogates being one of them. A surrogate
without its partner is replaced. -/
def charsOfUnits : List Nat → List Char
  | [] => []
  | h :: l :: rest =>
    if isHighSurrogate h && isLowSurrogate l then
      charOfCode (0x10000 + (h - 0xD800) * 0x400 + (l - 0xDC00)) :: charsOfUnits rest
    else charOfCode h :: charsOfUnits (l :: rest)
  | [h] => [charOfCode h]

/-- Characters as the code points that write them. -/
theorem charsOfUnits_toNat (cs : List Char) : charsOfUnits (cs.map Char.toNat) = cs := by
  have hcode (c : Char) : charOfCode c.toNat = c := by
    have : c.toNat.isValidChar := c.valid
    simp [charOfCode, this]
  have hhigh (c : Char) : isHighSurrogate c.toNat = false := by
    have : c.toNat.isValidChar := c.valid
    simp only [Nat.isValidChar] at this
    simp only [isHighSurrogate, Bool.and_eq_false_iff, decide_eq_false_iff_not]
    omega
  induction cs with
  | nil => rfl
  | cons c cs ih =>
    cases cs with
    | nil => simp [charsOfUnits, hcode]
    | cons d ds => simpa [charsOfUnits, hhigh, hcode] using ih

/-- The number of units that characters take: two for one beyond the first 2¹⁶, else one. -/
def unitCount (cs : List Char) : Nat :=
  cs.foldl (fun n c => if c.toNat < 0x10000 then n + 1 else n + 2) 0

example : charsOfUnits [0x61, 0xD83D, 0xDE00] = ['a', '😀'] := by decide +kernel

end Text

end OAuthClient
