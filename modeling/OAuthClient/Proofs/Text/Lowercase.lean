import Mathlib.Data.List.Forall2
import OAuthClient.Proofs.KeyOrder
import OAuthClient.Text.Blank
import OAuthClient.Text.Lowercase

/-!
# What lower case leaves alone

Lower-case forms are their own lower-case forms, and no character becomes a digit or a blank that
was none. Both are facts about the table of case ranges: the forms of a range lie outside of all
ranges, and of the ranges of digits and blanks. A text that is an array index is therefore the only
text with its lower-case form.

## Main statements

* `Text.CaseRange.isClosed`: what is checked of each range of the table.
* `Text.LowerOf`: a character belongs to the lower-case form of another one.
* `Text.exists_lowerAfter_cons`: the lower-case form of a text is made of those of its characters.
* `Text.lowercase_lowercase`: a lower-case form is its own.
* `Text.eq_of_lowercase_eq`: an array index is the only text with its lower-case form.
-/

namespace OAuthClient

namespace Text

/-! ### The table of case ranges -/

namespace CaseRange

/-- The lower-case form of a code point of a range. -/
def image (r : CaseRange) (n : Nat) : Nat := (n + r.shift).toNat

/-- Whether a lower-case form of the range may belong to another range. If that has every second
code point only, the forms may all be between those. -/
def meets (r q : CaseRange) : Bool :=
  Nat.ble q.first (r.image r.last) && Nat.ble (r.image r.first) q.last &&
    !((r.step == 2 || r.first == r.last) && q.step == 2 && r.image r.first % 2 != q.first % 2)

/-- The code points that no lower-case form is: digits, blanks, `İ` and surrogates. -/
def excluded : List (Nat × Nat) :=
  (0x30, 0x39) :: (0x130, 0x130) :: (0xD800, 0xDFFF) :: blankRanges

/-- Whether the lower-case forms of a range are characters that no range has, and are not
excluded. -/
def isClosed (r : CaseRange) : Bool :=
  Nat.ble (r.image r.last) 0x10FFFF && decide (0 ≤ r.first + r.shift) &&
    (excluded.all fun e => Nat.blt (r.image r.last) e.1 || Nat.blt e.2 (r.image r.first)) &&
    lowerCaseRanges.all fun q => !r.meets q

variable {r q : CaseRange} {n : Nat}

theorem contains_iff :
    r.contains n ↔ r.first ≤ n ∧ n ≤ r.last ∧ (n - r.first) % r.step = 0 := by
  simp [contains, and_assoc]

/-- The forms of a range go from that of its first code point to that of its last. -/
theorem image_mem_Icc (h : r.contains n) :
    r.image r.first ≤ r.image n ∧ r.image n ≤ r.image r.last := by
  obtain ⟨hfirst, hlast, -⟩ := contains_iff.mp h
  unfold image
  omega

theorem meets_iff : r.meets q ↔ q.first ≤ r.image r.last ∧ r.image r.first ≤ q.last ∧
    ¬ ((r.step = 2 ∨ r.first = r.last) ∧ q.step = 2 ∧ r.image r.first % 2 ≠ q.first % 2) := by
  simp [meets, and_assoc, or_assoc, imp_iff_not_or]

/-- Ranges meet if a form of one belongs to the other. -/
theorem meets_of_contains (hshift : 0 ≤ r.first + r.shift) (h : r.contains n)
    (hq : q.contains (r.image n)) : r.meets q := by
  obtain ⟨hlow, hhigh⟩ := image_mem_Icc h
  obtain ⟨hfirst, hlast, hstep⟩ := contains_iff.mp h
  obtain ⟨hfirst', hlast', hstep'⟩ := contains_iff.mp hq
  refine meets_iff.mpr ⟨by omega, by omega, ?_⟩
  -- In a range of every second code point the forms have the parity of the first one.
  rintro ⟨hr, hq, hparity⟩
  rw [hq] at hstep'
  unfold image at *
  rcases hr with hr | hr
  · rw [hr] at hstep
    omega
  · omega

theorem all_isClosed : lowerCaseRanges.all isClosed = true := by decide +kernel

theorem isClosed_of_mem (h : r ∈ lowerCaseRanges) : r.isClosed :=
  List.all_eq_true.mp all_isClosed r h

end CaseRange

/-- A code point is its own lower-case form, or that of a range that has it. -/
theorem lowerCode_eq (n : Nat) :
    (lowerCode n = n ∧ ∀ r ∈ lowerCaseRanges, ¬ r.contains n) ∨
      ∃ r ∈ lowerCaseRanges, r.contains n ∧ lowerCode n = r.image n := by
  unfold lowerCode
  cases h : lowerCaseRanges.find? (·.contains n) with
  | none => exact .inl ⟨rfl, List.find?_eq_none.mp h⟩
  | some r =>
    have hcontains : r.contains n := List.find?_some (p := fun r : CaseRange => r.contains n) h
    exact .inr ⟨r, List.mem_of_find?_eq_some h, hcontains, rfl⟩

/-- A code point is its own lower-case form, or its lower-case form is a character that is its own
and not excluded. -/
theorem lowerCode_closed (n : Nat) : lowerCode n = n ∨
    (lowerCode n).isValidChar ∧ lowerCode (lowerCode n) = lowerCode n ∧
      inRanges CaseRange.excluded (lowerCode n) = false := by
  rcases lowerCode_eq n with ⟨hn, -⟩ | ⟨r, hr, hcontains, hn⟩
  · exact .inl hn
  · have hclosed := CaseRange.isClosed_of_mem hr
    obtain ⟨hlow, hhigh⟩ := CaseRange.image_mem_Icc hcontains
    simp only [CaseRange.isClosed, Bool.and_eq_true, Nat.ble_eq, decide_eq_true_eq] at hclosed
    obtain ⟨⟨⟨hmax, hshift⟩, hexcluded⟩, hmeets⟩ := hclosed
    have hout : inRanges CaseRange.excluded (r.image n) = false := by
      refine List.any_eq_false.mpr fun e he hin => ?_
      have he := List.all_eq_true.mp hexcluded e he
      simp only [Bool.or_eq_true, Nat.blt_eq] at he
      simp only [Bool.and_eq_true, decide_eq_true_eq] at hin
      omega
    rw [hn]
    refine .inr ⟨?_, ?_, hout⟩
    · have hsurrogate := List.any_eq_false.mp hout (0xD800, 0xDFFF) (by decide)
      simp only [Bool.and_eq_true, decide_eq_true_eq] at hsurrogate
      unfold Nat.isValidChar
      omega
    · rcases lowerCode_eq (r.image n) with ⟨heq, -⟩ | ⟨q, hq, hcontains', -⟩
      · exact heq
      · have hq := List.all_eq_true.mp hmeets q hq
        rw [CaseRange.meets_of_contains hshift hcontains hcontains'] at hq
        cases hq

/-! ### Characters -/

/-- A character that is its own lower-case form. -/
def Settled (c : Char) : Prop := lowerCode c.toNat = c.toNat ∧ c ≠ 'İ'

/-- A character belongs to the lower-case form of another one, wherever that stands. -/
def LowerOf (c d : Char) : Prop := if c = 'Σ' then d = 'σ' ∨ d = 'ς' else d ∈ lowerChar c

/-- What a character becomes is itself, or a character that is settled and not excluded. -/
theorem LowerOf.eq_or {c d : Char} (h : LowerOf c d) :
    d = c ∧ Settled d ∨ Settled d ∧ inRanges CaseRange.excluded d.toNat = false := by
  unfold LowerOf at h
  split at h
  · rcases h with rfl | rfl
    · exact .inr (by unfold Settled; decide +kernel)
    · exact .inr (by unfold Settled; decide +kernel)
  · unfold lowerChar at h
    split at h
    · simp only [List.mem_cons, List.not_mem_nil, or_false] at h
      rcases h with rfl | rfl
      · exact .inr (by unfold Settled; decide +kernel)
      · exact .inr (by unfold Settled; decide +kernel)
    · next hdot =>
      rw [List.mem_singleton] at h
      rcases lowerCode_closed c.toNat with hown | ⟨hvalid, hagain, hout⟩
      · rw [hown, Char.ofNat_toNat] at h
        subst h
        exact .inl ⟨rfl, hown, hdot⟩
      · have hcode : d.toNat = lowerCode c.toNat := by
          rw [h, Char.ofNat, dif_pos hvalid]
          rfl
        rw [← hcode] at hagain hout
        refine .inr ⟨⟨hagain, ?_⟩, hout⟩
        rintro rfl
        exact absurd hout (by decide)

theorem LowerOf.settled {c d : Char} (h : LowerOf c d) : Settled d := by
  rcases h.eq_or with ⟨-, hsettled⟩ | ⟨hsettled, -⟩
  · exact hsettled
  · exact hsettled

/-- No other character becomes an excluded one. -/
theorem LowerOf.eq_of_excluded {c d : Char} (h : LowerOf c d)
    (hd : inRanges CaseRange.excluded d.toNat) : c = d := by
  rcases h.eq_or with ⟨rfl, -⟩ | ⟨-, hout⟩
  · rfl
  · rw [hout] at hd
    cases hd

theorem LowerOf.eq_of_isDigit {c d : Char} (h : LowerOf c d) (hd : d.isDigit) : c = d := by
  obtain ⟨hlow, hhigh⟩ := toNat_of_isDigit hd
  refine h.eq_of_excluded (List.any_eq_true.mpr ⟨(0x30, 0x39), by decide, ?_⟩)
  have hzero : '0'.toNat = 0x30 := rfl
  simp only [Bool.and_eq_true, decide_eq_true_eq]
  omega

theorem LowerOf.eq_of_isBlank {c d : Char} (h : LowerOf c d) (hd : isBlank d) : c = d := by
  obtain ⟨range, hrange, hin⟩ := List.any_eq_true.mp hd
  refine h.eq_of_excluded (List.any_eq_true.mpr ⟨range, ?_, hin⟩)
  simp [CaseRange.excluded, hrange]

/-- A digit is its own lower-case form. -/
theorem settled_of_isDigit {c : Char} (h : c.isDigit) : Settled c := by
  have hcodes : ∀ n ∈ List.range' 0x30 10, lowerCode n = n := by decide +kernel
  obtain ⟨hlow, hhigh⟩ := toNat_of_isDigit h
  refine ⟨hcodes c.toNat (List.mem_range'_1.mpr ⟨hlow, hhigh⟩), ?_⟩
  rintro rfl
  exact absurd h (by decide)

/-! ### Texts -/

/-- The lower-case form of some characters starts with that of the first one. -/
theorem exists_lowerAfter_cons (before : List Char) (c : Char) (cs : List Char) :
    ∃ piece, piece ≠ [] ∧ (∀ d ∈ piece, LowerOf c d) ∧
      lowerAfter before (c :: cs) = piece ++ lowerAfter (c :: before) cs := by
  refine ⟨_, ?_, ?_, rfl⟩
  · unfold lowerChar
    split
    · simp
    · split <;> simp
  · intro d hd
    unfold LowerOf
    split
    · next hc =>
      rw [if_pos hc, List.mem_singleton] at hd
      rw [hd]
      split
      · exact .inr rfl
      · exact .inl rfl
    · next hc => rwa [if_neg hc] at hd

theorem exists_of_mem_lowerAfter {before cs : List Char} {d : Char}
    (h : d ∈ lowerAfter before cs) : ∃ c ∈ cs, LowerOf c d := by
  induction cs generalizing before with
  | nil => cases h
  | cons c cs ih =>
    obtain ⟨piece, -, hpiece, heq⟩ := exists_lowerAfter_cons before c cs
    rw [heq, List.mem_append] at h
    rcases h with h | h
    · exact ⟨c, List.mem_cons_self, hpiece d h⟩
    · obtain ⟨c', hc', hd⟩ := ih h
      exact ⟨c', List.mem_cons_of_mem c hc', hd⟩

theorem exists_mem_lowerAfter (before : List Char) {cs : List Char} {c : Char} (h : c ∈ cs) :
    ∃ d ∈ lowerAfter before cs, LowerOf c d := by
  induction cs generalizing before with
  | nil => cases h
  | cons c' cs ih =>
    obtain ⟨piece, hne, hpiece, heq⟩ := exists_lowerAfter_cons before c' cs
    rw [heq]
    rcases List.mem_cons.mp h with rfl | h
    · obtain ⟨d, hd⟩ := List.exists_mem_of_ne_nil piece hne
      exact ⟨d, List.mem_append_left _ hd, hpiece d hd⟩
    · obtain ⟨d, hd, hlower⟩ := ih (c' :: before) h
      exact ⟨d, List.mem_append_right _ hd, hlower⟩

/-- The lower-case form starts with a character from that of the first character. -/
theorem head?_lowerAfter {before cs : List Char} {d : Char}
    (h : (lowerAfter before cs).head? = some d) : ∃ c, cs.head? = some c ∧ LowerOf c d := by
  cases cs with
  | nil => cases h
  | cons c cs =>
    obtain ⟨piece, hne, hpiece, heq⟩ := exists_lowerAfter_cons before c cs
    obtain ⟨e, piece, rfl⟩ := List.exists_cons_of_ne_nil hne
    rw [heq] at h
    cases h
    exact ⟨c, rfl, hpiece d List.mem_cons_self⟩

/-- The lower-case form ends with a character from that of the last character. -/
theorem getLast?_lowerAfter {before cs : List Char} {d : Char}
    (h : (lowerAfter before cs).getLast? = some d) : ∃ c, cs.getLast? = some c ∧ LowerOf c d := by
  induction cs generalizing before with
  | nil => cases h
  | cons c cs ih =>
    obtain ⟨piece, hne, hpiece, heq⟩ := exists_lowerAfter_cons before c cs
    rw [heq] at h
    cases cs with
    | nil =>
      rw [show lowerAfter (c :: before) [] = [] from rfl, List.append_nil] at h
      exact ⟨c, rfl, hpiece d (List.mem_of_getLast? h)⟩
    | cons c' cs =>
      obtain ⟨piece', hne', -, heq'⟩ := exists_lowerAfter_cons (c :: before) c' cs
      have hrest : lowerAfter (c :: before) (c' :: cs) ≠ [] := by
        rw [heq']
        exact List.append_ne_nil_of_left_ne_nil hne' _
      rw [List.getLast?_append_of_ne_nil _ hrest] at h
      obtain ⟨e, he, hd⟩ := ih h
      exact ⟨e, by simpa using he, hd⟩

/-- Settled characters are left as they are. -/
theorem lowerAfter_of_settled {cs : List Char} (h : ∀ c ∈ cs, Settled c) (before : List Char) :
    lowerAfter before cs = cs := by
  induction cs generalizing before with
  | nil => rfl
  | cons c cs ih =>
    obtain ⟨⟨hcode, hdot⟩, hcs⟩ := List.forall_mem_cons.mp h
    have hsigma : c ≠ 'Σ' := by
      rintro rfl
      exact absurd hcode (by decide +kernel)
    have hlower : lowerChar c = [c] := by rw [lowerChar, if_neg hdot, hcode, Char.ofNat_toNat]
    rw [lowerAfter, if_neg hsigma, hlower, ih hcs]
    rfl

theorem settled_of_mem_lowercase {s : String} {d : Char} (h : d ∈ (lowercase s).toList) :
    Settled d := by
  rw [lowercase, String.toList_ofList] at h
  obtain ⟨c, -, hd⟩ := exists_of_mem_lowerAfter h
  exact hd.settled

/-- A text of settled characters is its own lower-case form. -/
theorem lowercase_of_settled {s : String} (h : ∀ c ∈ s.toList, Settled c) : lowercase s = s := by
  rw [lowercase, lowerAfter_of_settled h, String.ofList_toList]

/-- A lower-case form is its own. -/
theorem lowercase_lowercase (s : String) : lowercase (lowercase s) = lowercase s :=
  lowercase_of_settled fun _ => settled_of_mem_lowercase

/-! ### Array indices -/

theorem isDigit_of_isIndex {key : String} (h : Entries.IsIndex key) :
    ∀ c ∈ key.toList, c.isDigit := by
  obtain ⟨i, hi⟩ := Option.isSome_iff_exists.mp h
  rcases (Entries.of_arrayIndex?_eq_some hi).1 with hzero | ⟨hplain, -⟩
  · rw [hzero]
    exact List.forall_mem_singleton.mpr rfl
  · exact hplain.isDigit

/-- Digits are the only characters with their lower-case forms. -/
theorem eq_of_isDigit_lowercase {s : String} (h : ∀ d ∈ (lowercase s).toList, d.isDigit) :
    lowercase s = s := by
  refine lowercase_of_settled fun c hc => settled_of_isDigit ?_
  obtain ⟨d, hd, hlower⟩ := exists_mem_lowerAfter [] hc
  have hdigit : d.isDigit := h d (by rwa [lowercase, String.toList_ofList])
  rwa [hlower.eq_of_isDigit hdigit]

/-- An array index is the only text with its lower-case form. -/
theorem eq_of_lowercase_eq {key other : String} (h : Entries.IsIndex key)
    (heq : lowercase other = lowercase key) : other = key := by
  have hdigits := isDigit_of_isIndex h
  have hkey : lowercase key = key :=
    lowercase_of_settled fun c hc => settled_of_isDigit (hdigits c hc)
  rw [hkey] at heq
  have hother : lowercase other = other :=
    eq_of_isDigit_lowercase fun d hd => hdigits d (heq ▸ hd)
  exact hother.symm.trans heq

end Text

end OAuthClient
