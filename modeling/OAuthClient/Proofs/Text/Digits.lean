import Mathlib.Data.List.Induction
import OAuthClient.Text.Digits

/-!
# Decimal digits

Digits without a leading zero are determined by the number that they write.

## Main statements

* `Text.Plain`: decimal digits without a leading zero.
* `Text.Plain.eq_of_digitsValue_eq`: two such lists that write the same number are equal.
-/

namespace OAuthClient

namespace Text

theorem digitsValue_append_singleton (cs : List Char) (c : Char) :
    digitsValue (cs ++ [c]) = 10 * digitsValue cs + (c.toNat - '0'.toNat) := by
  simp [digitsValue]

theorem toNat_of_isDigit {c : Char} (h : c.isDigit) :
    '0'.toNat ≤ c.toNat ∧ c.toNat < '0'.toNat + 10 := by
  rw [Char.isDigit, Bool.and_eq_true, decide_eq_true_iff, decide_eq_true_iff] at h
  exact ⟨h.1, Nat.lt_succ_of_le h.2⟩

/-- Decimal digits without a leading zero. -/
structure Plain (cs : List Char) : Prop where
  isDigit : ∀ c ∈ cs, c.isDigit
  head?_ne : cs.head? ≠ some '0'

theorem Plain.left {cs ds : List Char} (h : Plain (cs ++ ds)) : Plain cs :=
  ⟨fun c hc => h.isDigit c (List.mem_append_left _ hc),
    fun hzero => h.head?_ne (by simp [hzero])⟩

theorem Plain.toNat_last {cs : List Char} {c : Char} (h : Plain (cs ++ [c])) :
    '0'.toNat ≤ c.toNat ∧ c.toNat < '0'.toNat + 10 :=
  toNat_of_isDigit (h.isDigit c (by simp))

/-- Digits without a leading zero write a positive number. -/
theorem Plain.digitsValue_pos {cs : List Char} (h : Plain cs) (hne : cs ≠ []) :
    0 < digitsValue cs := by
  induction cs using List.reverseRecOn with
  | nil => exact absurd rfl hne
  | append_singleton cs c ih =>
    rw [digitsValue_append_singleton]
    by_cases hcs : cs = []
    · subst hcs
      have hc : c.toNat ≠ '0'.toNat :=
        fun heq => h.head?_ne (by simp [Char.toNat_inj.mp heq])
      have hlow := h.toNat_last.1
      omega
    · have hpos := ih h.left hcs
      omega

/-- Digits without a leading zero are determined by the number that they write. -/
theorem Plain.eq_of_digitsValue_eq {cs ds : List Char} (hcs : Plain cs) (hds : Plain ds)
    (h : digitsValue cs = digitsValue ds) : cs = ds := by
  induction cs using List.reverseRecOn generalizing ds with
  | nil =>
    refine Eq.symm (Decidable.byContradiction fun hne => ?_)
    exact absurd h (Nat.ne_of_lt (hds.digitsValue_pos hne))
  | append_singleton cs c ih =>
    cases ds using List.reverseRecOn with
    | nil => exact absurd h (Nat.ne_of_gt (hcs.digitsValue_pos (by simp)))
    | append_singleton ds d =>
      have hc := hcs.toNat_last
      have hd := hds.toNat_last
      rw [digitsValue_append_singleton, digitsValue_append_singleton] at h
      -- The last digits are the remainders, what comes before them are the quotients.
      have hlast : c = d := Char.toNat_inj.mp (by omega)
      subst hlast
      rw [ih hcs.left hds.left (by omega)]

end Text

end OAuthClient
