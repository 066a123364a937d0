/-!
# Segments between separators

A text is cut at every occurrence of a separator; the pieces, which may be empty, are its segments.

## Main declarations

* `Text.cut`: the segments of a list of characters; `cut_ne_nil` says that there is at least one,
  `joinWith_cut` that joining them gives the characters back, `cut_joinWith` that pieces without
  separators are found again, and `cut_append_eq` that text put behind continues the last one.
* `Text.segments`: the segments of a text; `eq_of_segments_eq` says that they determine it.
* `Text.joinWith`, `Text.joined`: put a separator between pieces, and between texts;
  `segments_joined` says which segments joined texts have.
-/

namespace OAuthClient

namespace Text

/-- The pieces between the separators. -/
def cut (separator : Char) : List Char → List (List Char)
  | [] => [[]]
  | c :: cs =>
    if c = separator then [] :: cut separator cs
    else match cut separator cs with
      | [] => [[c]]
      | s :: ss => (c :: s) :: ss

/-- Puts a separator between pieces. -/
def joinWith (separator : Char) : List (List Char) → List Char
  | [] => []
  | [s] => s
  | s :: ss => s ++ separator :: joinWith separator ss

/-- The segments of a text. -/
def segments (separator : Char) (s : String) : List String :=
  (cut separator s.toList).map String.ofList

@[simp] theorem cut_ne_nil (separator : Char) (cs : List Char) : cut separator cs ≠ [] := by
  cases cs with
  | nil => simp [cut]
  | cons c cs =>
    simp only [cut]
    split
    · simp
    · split <;> simp

/-- Joining the pieces gives the characters back. -/
theorem joinWith_cut (separator : Char) (cs : List Char) :
    joinWith separator (cut separator cs) = cs := by
  induction cs with
  | nil => rfl
  | cons c cs ih =>
    simp only [cut]
    cases h : cut separator cs with
    | nil => exact absurd h (cut_ne_nil separator cs)
    | cons s ss =>
      rw [h] at ih
      split
      · next hc => simp [joinWith, ih, hc]
      · cases ss <;> simp_all [joinWith]

/-- A piece holds no separator. -/
theorem not_mem_of_mem_cut {separator : Char} {cs s : List Char} (h : s ∈ cut separator cs) :
    separator ∉ s := by
  induction cs generalizing s with
  | nil => simp [cut] at h; simp [h]
  | cons c cs ih =>
    simp only [cut] at h
    split at h
    · rcases List.mem_cons.mp h with rfl | h
      · simp
      · exact ih h
    · next hc =>
      cases hcut : cut separator cs with
      | nil => exact absurd hcut (cut_ne_nil separator cs)
      | cons t ts =>
        rw [hcut] at h ih
        rcases List.mem_cons.mp h with rfl | h
        · simpa [Ne.symm hc] using ih (List.mem_cons_self ..)
        · exact ih (List.mem_cons_of_mem _ h)

/-- Characters without a separator are one piece. -/
theorem cut_of_not_mem {separator : Char} {cs : List Char} (h : separator ∉ cs) :
    cut separator cs = [cs] := by
  induction cs with
  | nil => rfl
  | cons c cs ih =>
    have hne : c ≠ separator := (List.ne_of_not_mem_cons h).symm
    rw [cut, if_neg hne, ih (List.not_mem_of_not_mem_cons h)]

/-- What stands before the first separator is the first piece. -/
theorem cut_append {separator : Char} {s : List Char} (h : separator ∉ s) (rest : List Char) :
    cut separator (s ++ separator :: rest) = s :: cut separator rest := by
  induction s with
  | nil => exact if_pos rfl
  | cons c s ih =>
    have hne : c ≠ separator := (List.ne_of_not_mem_cons h).symm
    rw [List.cons_append, cut, if_neg hne, ih (List.not_mem_of_not_mem_cons h)]

/-- Pieces without separators are found again. -/
theorem cut_joinWith {separator : Char} {ss : List (List Char)} (hne : ss ≠ [])
    (h : ∀ s ∈ ss, separator ∉ s) : cut separator (joinWith separator ss) = ss := by
  induction ss with
  | nil => exact absurd rfl hne
  | cons s ss ih =>
    obtain ⟨hs, hss⟩ := List.forall_mem_cons.mp h
    cases ss with
    | nil => exact cut_of_not_mem hs
    | cons t ts =>
      rw [joinWith, cut_append hs, ih (List.cons_ne_nil t ts) hss]
      exact List.cons_ne_nil t ts

/-- The last piece of some characters goes on with the first piece of those put behind them. -/
theorem cut_append_eq {separator : Char} {s t last first : List Char}
    {earlier more : List (List Char)} (hs : cut separator s = earlier ++ [last])
    (ht : cut separator t = first :: more) :
    cut separator (s ++ t) = earlier ++ (last ++ first) :: more := by
  induction s generalizing earlier last with
  | nil =>
    cases earlier with
    | nil =>
      cases hs
      exact ht
    | cons e es => simp [cut] at hs
  | cons c s ih =>
    obtain ⟨piece, pieces, hpieces⟩ : ∃ piece pieces, cut separator s = piece :: pieces :=
      List.exists_cons_of_ne_nil (cut_ne_nil separator s)
    by_cases hc : c = separator
    · rw [cut, if_pos hc] at hs
      cases earlier with
      | nil => simp at hs
      | cons e es =>
        obtain ⟨rfl, hrest⟩ := List.cons.inj hs
        rw [List.cons_append, cut, if_pos hc, ih hrest]
        rfl
    · rw [cut, if_neg hc, hpieces] at hs
      cases earlier with
      | nil =>
        obtain ⟨rfl, rfl⟩ := List.cons.inj hs
        have hlast : cut separator s = [] ++ [piece] := hpieces
        rw [List.cons_append, cut, if_neg hc, ih hlast]
        rfl
      | cons e es =>
        obtain ⟨rfl, rfl⟩ := List.cons.inj hs
        have hlast : cut separator s = (piece :: es) ++ [last] := hpieces
        rw [List.cons_append, cut, if_neg hc, ih hlast]
        rfl

/-- Text around a separator has the pieces of both sides. -/
theorem cut_append_cons (separator : Char) (s t : List Char) :
    cut separator (s ++ separator :: t) = cut separator s ++ cut separator t := by
  have hs := (List.dropLast_concat_getLast (cut_ne_nil separator s)).symm
  have ht : cut separator (separator :: t) = [] :: cut separator t := if_pos rfl
  rw [cut_append_eq hs ht, List.append_nil]
  conv => rhs; rw [hs]
  rw [List.append_assoc, List.singleton_append]

/-- The last piece is empty just if nothing stands behind the last separator. -/
theorem getLast?_cut_eq_nil_iff {separator : Char} {cs : List Char} :
    (cut separator cs).getLast? = some [] ↔ cs = [] ∨ cs.getLast? = some separator := by
  rcases List.eq_nil_or_concat cs with rfl | ⟨s, c, rfl⟩
  · simp [cut]
  · by_cases hc : c = separator
    · subst hc
      simp [cut_append_cons, cut]
    · have hs := (List.dropLast_concat_getLast (cut_ne_nil separator s)).symm
      have ht : cut separator [c] = [[c]] := by simp [cut, hc]
      simp [cut_append_eq hs ht, hc]

/-! ### Joining segments -/

/-- Puts a separator between texts. -/
def joined (separator : Char) (ss : List String) : String :=
  String.ofList (joinWith separator (ss.map String.toList))

theorem joined_segments (separator : Char) (s : String) :
    joined separator (segments separator s) = s := by
  have hlists : (segments separator s).map String.toList = cut separator s.toList := by
    simp [segments]
  rw [joined, hlists, joinWith_cut, String.ofList_toList]

/-- Other texts have other segments. -/
theorem eq_of_segments_eq {separator : Char} {s t : String}
    (h : segments separator s = segments separator t) : s = t := by
  rw [← joined_segments separator s, h, joined_segments]

theorem segments_ne_nil (separator : Char) (s : String) : segments separator s ≠ [] := by
  simp [segments]

/-- A segment holds no separator. -/
theorem not_mem_of_mem_segments {separator : Char} {s t : String}
    (h : t ∈ segments separator s) : separator ∉ t.toList := by
  obtain ⟨cs, hcs, rfl⟩ := List.mem_map.mp h
  rw [String.toList_ofList]
  exact not_mem_of_mem_cut hcs

/-- A text without a separator is its only segment. -/
theorem segments_of_not_mem {separator : Char} {s : String} (h : separator ∉ s.toList) :
    segments separator s = [s] := by
  simp [segments, cut_of_not_mem h]

/-- Joined texts have the segments of each. -/
theorem segments_joined {separator : Char} {ss : List String} (hne : ss ≠ []) :
    segments separator (joined separator ss) = ss.flatMap (segments separator) := by
  induction ss with
  | nil => exact absurd rfl hne
  | cons s ss ih =>
    cases ss with
    | nil => simp [joined, joinWith, segments]
    | cons t ts =>
      have hrest := ih (List.cons_ne_nil t ts)
      have hjoined : joined separator (s :: t :: ts) =
          String.ofList (s.toList ++ separator :: (joined separator (t :: ts)).toList) := by
        simp [joined, joinWith]
      rw [hjoined, List.flatMap_cons, ← hrest]
      simp [segments, cut_append_cons]

/-- Texts without separators are found again. -/
theorem segments_joined_of_not_mem {separator : Char} {ss : List String} (hne : ss ≠ [])
    (h : ∀ s ∈ ss, separator ∉ s.toList) : segments separator (joined separator ss) = ss := by
  have hsingle : ss.map (segments separator) = ss.map ([·]) :=
    List.map_congr_left fun s hs => segments_of_not_mem (h s hs)
  rw [segments_joined hne, List.flatMap_def, hsingle, ← List.flatMap_def, List.flatMap_singleton']

theorem getLast?_segments_eq_iff {separator : Char} {s : String} :
    (segments separator s).getLast? = some "" ↔ s = "" ∨ s.toList.getLast? = some separator := by
  rw [segments, List.getLast?_map, ← String.toList_eq_nil_iff, ← getLast?_cut_eq_nil_iff]
  cases (cut separator s.toList).getLast? with
  | none => simp
  | some piece => simp

example : segments '.' "a..b" = ["a", "", "b"] ∧ segments '.' "" = [""] := by decide +kernel

end Text

end OAuthClient
