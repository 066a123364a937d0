import Mathlib.Data.List.DropRight
import OAuthClient.Text.Blank

/-!
# Trimmed texts

What is left of a text without the blanks around it has none around it, and a text without them is
left as it is.

## Main statements

* `Text.Trimmed`: characters neither start nor end with a blank.
* `Text.trimmed_trimChars`, `Text.trimChars_of_trimmed`: what trimming gives, and what it leaves
  as it is.
* `Text.trim_trim`: trimming twice is trimming once.
-/

namespace OAuthClient

namespace Text

/-- Characters neither start nor end with a blank. -/
structure Trimmed (cs : List Char) : Prop where
  head : ∀ c, cs.head? = some c → isBlank c = false
  last : ∀ c, cs.getLast? = some c → isBlank c = false

variable {cs : List Char}

theorem trimChars_eq (cs : List Char) :
    trimChars cs = (cs.dropWhile isBlank).rdropWhile isBlank := rfl

/-- Trimmed characters are left as they are. -/
theorem trimChars_of_trimmed (h : Trimmed cs) : trimChars cs = cs := by
  have hhead : cs.dropWhile isBlank = cs := by
    refine List.dropWhile_eq_self_iff.mpr fun hlength => ?_
    rw [h.head cs[0] (List.head?_eq_getElem? ▸ List.getElem?_eq_getElem hlength)]
    exact Bool.false_ne_true
  rw [trimChars_eq, hhead]
  refine List.rdropWhile_eq_self_iff.mpr fun hne => ?_
  rw [h.last _ (List.getLast?_eq_some_getLast hne)]
  exact Bool.false_ne_true

theorem trimmed_trimChars (cs : List Char) : Trimmed (trimChars cs) := by
  rw [trimChars_eq]
  refine ⟨fun c hc => ?_, fun c hc => ?_⟩
  · -- Leaving out what stands at the end does not change the start.
    obtain ⟨rest, hrest⟩ := List.rdropWhile_prefix isBlank (cs.dropWhile isBlank)
    have hhead : (cs.dropWhile isBlank).head? = some c := by
      rw [← hrest, List.head?_append, hc]
      rfl
    have hnot := List.head?_dropWhile_not isBlank cs
    rwa [hhead] at hnot
  · have hne : (cs.dropWhile isBlank).rdropWhile isBlank ≠ [] := by
      intro hnil
      rw [hnil] at hc
      cases hc
    have hlast := List.rdropWhile_last_not isBlank _ hne
    rw [List.getLast?_eq_some_getLast hne] at hc
    rw [← Option.some.inj hc]
    simpa using hlast

/-- Trimming twice is trimming once. -/
theorem trim_trim (s : String) : trim (trim s) = trim s := by
  rw [trim, trim, String.toList_ofList, trimChars_of_trimmed (trimmed_trimChars _)]

theorem trimmed_of_trim_eq {s : String} (h : trim s = s) : Trimmed s.toList := by
  rw [← h, trim, String.toList_ofList]
  exact trimmed_trimChars s.toList

/-- Trimming takes characters away and adds none. -/
theorem mem_of_mem_trim {s : String} {c : Char} (h : c ∈ (trim s).toList) : c ∈ s.toList := by
  rw [trim, String.toList_ofList, trimChars_eq] at h
  exact (List.dropWhile_suffix isBlank).subset ((List.rdropWhile_prefix isBlank _).subset h)

end Text

end OAuthClient
