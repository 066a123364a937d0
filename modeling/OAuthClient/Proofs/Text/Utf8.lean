import OAuthClient.Text.Utf8

/-!
# Reading UTF-8 back

A character is written as one octet or as a start and up to three more, and the reader gathers the
code point from them. An octet below 0x80 is always a character of its own, whatever stands before
it.

## Main statements

* `Text.utf8Chars_utf8Bytes`: the octets of characters read back as these characters.
* `Text.utf8Chars_append_cons`: an octet below 0x80 separates what stands before it from the rest.
-/

namespace OAuthClient

namespace Text

/-- A character has the code point that it is read from. -/
theorem charOfCode_toNat (c : Char) : charOfCode c.toNat = c := by
  have hvalid : c.toNat.isValidChar := c.valid
  rw [charOfCode, if_pos hvalid, Char.ofNat_toNat]

/-! ### The octets of one character -/

theorem utf8Start_one {b : Nat} (h : b < 0x80) : utf8Start b = ([Char.ofNat b], none) :=
  if_pos h

theorem utf8Start_two {b : Nat} (h : 0xC2 ≤ b) (h' : b ≤ 0xDF) :
    utf8Start b = ([], some { code := b - 0xC0, needed := 1 }) := by
  have hone : ¬ b < 0x80 := by omega
  simp [utf8Start, hone, h, h']

theorem utf8Start_three {b : Nat} (h : 0xE0 ≤ b) (h' : b ≤ 0xEF) :
    utf8Start b = ([], some
      { code := b - 0xE0, needed := 2, lower := if b = 0xE0 then 0xA0 else 0x80,
        upper := if b = 0xED then 0x9F else 0xBF }) := by
  have hone : ¬ b < 0x80 := by omega
  have htwo : ¬ b ≤ 0xDF := by omega
  simp [utf8Start, hone, htwo, h, h']

theorem utf8Start_four {b : Nat} (h : 0xF0 ≤ b) (h' : b ≤ 0xF4) :
    utf8Start b = ([], some
      { code := b - 0xF0, needed := 3, lower := if b = 0xF0 then 0x90 else 0x80,
        upper := if b = 0xF4 then 0x8F else 0xBF }) := by
  have hone : ¬ b < 0x80 := by omega
  have htwo : ¬ b ≤ 0xDF := by omega
  have hthree : ¬ b ≤ 0xEF := by omega
  simp [utf8Start, hone, htwo, hthree, h, h']

theorem utf8CharsFrom_start (b : UInt8) (bs : List UInt8) :
    utf8CharsFrom none (b :: bs) =
      (utf8Start b.toNat).1 ++ utf8CharsFrom (utf8Start b.toNat).2 bs := rfl

theorem toNat_octet {n : Nat} (h : n < 0x100) : (UInt8.ofNat n).toNat = n := Nat.mod_eq_of_lt h

section

variable {v code lower upper : Nat} (bs : List UInt8)

/-- The octet that a sequence ends with completes its character. -/
theorem utf8CharsFrom_last (h : v < 0x100) (hlower : lower ≤ v) (hupper : v ≤ upper) :
    utf8CharsFrom (some { code, needed := 1, lower, upper }) (UInt8.ofNat v :: bs) =
      charOfCode (code * 0x40 + (v - 0x80)) :: utf8CharsFrom none bs := by
  rw [utf8CharsFrom, toNat_octet h]
  simp [utf8Step, hlower, hupper]

/-- Any octet before it brings the next six bits. -/
theorem utf8CharsFrom_next {needed : Nat} (h : v < 0x100) (hlower : lower ≤ v)
    (hupper : v ≤ upper) :
    utf8CharsFrom (some { code, needed := needed + 2, lower, upper }) (UInt8.ofNat v :: bs) =
      utf8CharsFrom (some { code := code * 0x40 + (v - 0x80), needed := needed + 1 }) bs := by
  rw [utf8CharsFrom, toNat_octet h]
  simp [utf8Step, hlower, hupper]

theorem utf8CharsFrom_one (h : v ≤ 0x7F) :
    utf8CharsFrom none (UInt8.ofNat v :: bs) = Char.ofNat v :: utf8CharsFrom none bs := by
  rw [utf8CharsFrom_start, toNat_octet (by omega), utf8Start_one (by omega)]
  rfl

theorem utf8CharsFrom_two (h : 0x7F < v) (h' : v ≤ 0x7FF) :
    utf8CharsFrom none
        (UInt8.ofNat (v / 64 % 32 + 192) :: UInt8.ofNat (v % 64 + 128) :: bs) =
      charOfCode v :: utf8CharsFrom none bs := by
  have hcode : (v / 64 % 32 + 192 - 0xC0) * 0x40 + (v % 64 + 128 - 0x80) = v := by omega
  rw [utf8CharsFrom_start, toNat_octet (by omega), utf8Start_two (by omega) (by omega),
    List.nil_append, utf8CharsFrom_last bs (by omega) (by omega) (by omega), hcode]

/-- The second of three octets excludes surrogates and what two octets would do for. -/
theorem utf8CharsFrom_three (h : 0x7FF < v) (h' : v ≤ 0xFFFF)
    (hvalid : v < 0xD800 ∨ 0xDFFF < v) :
    utf8CharsFrom none (UInt8.ofNat (v / 4096 % 16 + 224) :: UInt8.ofNat (v / 64 % 64 + 128) ::
        UInt8.ofNat (v % 64 + 128) :: bs) =
      charOfCode v :: utf8CharsFrom none bs := by
  have hcode : ((v / 4096 % 16 + 224 - 0xE0) * 0x40 + (v / 64 % 64 + 128 - 0x80)) * 0x40 +
      (v % 64 + 128 - 0x80) = v := by omega
  rw [utf8CharsFrom_start, toNat_octet (by omega), utf8Start_three (by omega) (by omega),
    List.nil_append, utf8CharsFrom_next _ (by omega) (by split <;> omega) (by split <;> omega),
    utf8CharsFrom_last bs (by omega) (by omega) (by omega), hcode]

/-- The second of four octets excludes what three would do for, and what is out of range. -/
theorem utf8CharsFrom_four (h : 0xFFFF < v) (h' : v < 0x110000) :
    utf8CharsFrom none (UInt8.ofNat (v / 262144 % 8 + 240) ::
        UInt8.ofNat (v / 4096 % 64 + 128) :: UInt8.ofNat (v / 64 % 64 + 128) ::
        UInt8.ofNat (v % 64 + 128) :: bs) =
      charOfCode v :: utf8CharsFrom none bs := by
  have hcode : (((v / 262144 % 8 + 240 - 0xF0) * 0x40 + (v / 4096 % 64 + 128 - 0x80)) * 0x40 +
      (v / 64 % 64 + 128 - 0x80)) * 0x40 + (v % 64 + 128 - 0x80) = v := by omega
  rw [utf8CharsFrom_start, toNat_octet (by omega), utf8Start_four (by omega) (by omega),
    List.nil_append, utf8CharsFrom_next _ (by omega) (by split <;> omega) (by split <;> omega),
    utf8CharsFrom_next _ (by omega) (by omega) (by omega),
    utf8CharsFrom_last bs (by omega) (by omega) (by omega), hcode]

end

/-- The octets of a character read back as this character. -/
theorem utf8CharsFrom_utf8EncodeChar (c : Char) (bs : List UInt8) :
    utf8CharsFrom none (String.utf8EncodeChar c ++ bs) = c :: utf8CharsFrom none bs := by
  have hvalid : c.val.toNat < 0xD800 ∨ 0xDFFF < c.val.toNat ∧ c.val.toNat < 0x110000 := c.valid
  have hcode : charOfCode c.val.toNat = c := charOfCode_toNat c
  unfold String.utf8EncodeChar
  simp only
  -- One case for each number of octets. That `c` is no surrogate matters where there are three.
  split
  · next hone => exact (utf8CharsFrom_one bs hone).trans (congrArg (· :: _) (Char.ofNat_toNat c))
  · split
    · next htwo => exact (utf8CharsFrom_two bs (by omega) htwo).trans (by rw [hcode])
    · split
      · next hthree =>
        exact (utf8CharsFrom_three bs (by omega) hthree (by omega)).trans (by rw [hcode])
      · exact (utf8CharsFrom_four bs (by omega) (by omega)).trans (by rw [hcode])

/-- The octets of characters read back as these characters. -/
theorem utf8Chars_utf8Bytes (cs : List Char) : utf8Chars (utf8Bytes cs) = cs := by
  induction cs with
  | nil => rfl
  | cons c cs ih =>
    show utf8CharsFrom none (String.utf8EncodeChar c ++ utf8Bytes cs) = c :: cs
    rw [utf8CharsFrom_utf8EncodeChar]
    exact congrArg (c :: ·) ih

/-! ### Octets below 0x80 -/

/-- A character below 0x80 is written as one octet, its code point. -/
theorem utf8Bytes_singleton {c : Char} (h : c.toNat < 0x80) :
    utf8Bytes [c] = [UInt8.ofNat c.toNat] := by
  have hone : c.val.toNat ≤ 0x7F := Nat.le_of_lt_succ h
  show String.utf8EncodeChar c ++ [] = _
  rw [List.append_nil, String.utf8EncodeChar, if_pos hone]
  rfl

theorem toNat_ofNat_octet (b : UInt8) : (Char.ofNat b.toNat).toNat = b.toNat := by
  have hvalid : b.toNat.isValidChar := .inl (Nat.lt_trans b.toNat_lt (by decide))
  rw [Char.ofNat, dif_pos hvalid]
  rfl

/-- A sequence expects no octet below 0x80. -/
def Utf8Pending.High : Option Utf8Pending → Prop
  | none => True
  | some p => 0x80 ≤ p.lower

theorem Utf8Pending.high_start (b : Nat) : High (utf8Start b).2 := by
  unfold utf8Start
  split
  · exact trivial
  · split
    · exact Nat.le_refl 0x80
    · split
      · show 0x80 ≤ if b = 0xE0 then 0xA0 else 0x80
        split <;> omega
      · split
        · show 0x80 ≤ if b = 0xF0 then 0x90 else 0x80
          split <;> omega
        · exact trivial

theorem Utf8Pending.high_step (pending : Option Utf8Pending) (b : Nat) :
    High (utf8Step pending b).2 := by
  cases pending with
  | none => exact high_start b
  | some p =>
    unfold utf8Step
    simp only
    split
    · split
      · exact trivial
      · exact Nat.le_refl 0x80
    · exact high_start b

/-- An octet below 0x80 ends whatever sequence was started before it. -/
theorem utf8CharsFrom_append_cons {pending : Option Utf8Pending} (h : Utf8Pending.High pending)
    (bs : List UInt8) {b : UInt8} (hb : b.toNat < 0x80) (rest : List UInt8) :
    utf8CharsFrom pending (bs ++ b :: rest) =
      utf8CharsFrom pending bs ++ Char.ofNat b.toNat :: utf8CharsFrom none rest := by
  induction bs generalizing pending with
  | nil =>
    -- A sequence that is still open expects an octet from 0x80 on, so it is given up here.
    cases pending with
    | none =>
      rw [List.nil_append, utf8CharsFrom_start, utf8Start_one hb]
      rfl
    | some p =>
      have hlower : ¬ p.lower ≤ b.toNat := by
        have hlower : 0x80 ≤ p.lower := h
        omega
      simp [utf8CharsFrom, utf8Step, hlower, utf8Start_one hb]
  | cons a bs ih =>
    simp only [List.cons_append, utf8CharsFrom, ih (Utf8Pending.high_step pending a.toNat),
      List.append_assoc]

/-- What is read before an octet below 0x80 does not depend on what follows it. -/
theorem utf8Chars_append_cons (bs : List UInt8) {b : UInt8} (hb : b.toNat < 0x80)
    (rest : List UInt8) :
    utf8Chars (bs ++ b :: rest) = utf8Chars bs ++ Char.ofNat b.toNat :: utf8Chars rest := by
  have hnone : Utf8Pending.High none := trivial
  exact utf8CharsFrom_append_cons hnone bs hb rest

end Text

end OAuthClient
