import OAuthClient.Proofs.Text.Utf8
import OAuthClient.Text.Form

/-!
# Reading forms back

Every octet is written so that it reads back as itself, and what is written for a text holds neither
of the two characters that separate names, values and parameters. So parameters read back as they
were, whatever characters are in them.

Some characters stand for themselves wherever they are, among them the question mark and the equals
sign. What stands before one of them is read as if nothing followed.

## Main statements

* `Form.decode_encode`: the written form of parameters reads back as these parameters.
* `Form.mem_encode`: the characters that written forms are made of.
* `Form.decodeText_append_cons`: a character that stands for itself separates what is read.
* `Form.size_decodePair_append_le`: pieces that are run together give a longer parameter.
-/

namespace OAuthClient

namespace Form

/-! ### Octets -/

theorem decodeBytes_cons {c : Char} (hplus : c ≠ '+') (hpercent : c ≠ '%') (cs : List Char) :
    decodeBytes (c :: cs) = Text.utf8Bytes [c] ++ decodeBytes cs := by
  rw [decodeBytes]
  · exact hplus
  · intro a b cs' h
    exact absurd h hpercent

/-- A percent sign without two digits stands for itself. -/
theorem decodeBytes_percent {a : Char} {cs : List Char}
    (h : ∀ b rest, cs = b :: rest → Text.hexNumber? [a, b] = none) :
    decodeBytes ('%' :: a :: cs) = 0x25 :: decodeBytes (a :: cs) := by
  cases cs with
  | nil =>
    rw [decodeBytes]
    · rfl
    · simp
    · simp
  | cons b rest => rw [decodeBytes, h b rest rfl]

theorem hexValue?_hexDigit : ∀ n : Fin 16, Text.hexValue? (hexDigit n) = some n.val := by
  decide

/-- Two digits write an octet. -/
theorem hexNumber?_hexDigits (b : UInt8) :
    Text.hexNumber? [hexDigit (b.toNat / 16), hexDigit (b.toNat % 16)] = some b.toNat := by
  have hb : b.toNat < 256 := b.toNat_lt
  have hhigh := hexValue?_hexDigit ⟨b.toNat / 16, by omega⟩
  have hlow := hexValue?_hexDigit ⟨b.toNat % 16, by omega⟩
  simp only at hhigh hlow
  simp [Text.hexNumber?, hhigh, hlow, Nat.div_add_mod]

theorem toNat_lt_of_isPlain : ∀ n : Fin 256, isPlain (UInt8.ofNat n) = true → n.val < 0x80 := by
  decide +kernel

/-- An octet that stands for itself is a character that has no other meaning. -/
theorem char_ne_of_isPlain {b : UInt8} (h : isPlain b = true) {c : Char}
    (hc : (c.isAlphanum || c ∈ ['*', '-', '.', '_']) = false) : Char.ofNat b.toNat ≠ c := by
  rintro rfl
  exact Bool.false_ne_true (hc.symm.trans h)

/-- What is written for an octet reads back as this octet. -/
theorem decodeBytes_encodeByte (b : UInt8) (rest : List Char) :
    decodeBytes (encodeByte b ++ rest) = b :: decodeBytes rest := by
  unfold encodeByte
  split
  · next hspace =>
    subst hspace
    rfl
  · split
    · next hplain =>
      have hlow : b.toNat < 0x80 := by
        have h := toNat_lt_of_isPlain ⟨b.toNat, b.toNat_lt⟩
        rw [UInt8.ofNat_toNat] at h
        exact h hplain
      have hchar : (Char.ofNat b.toNat).toNat < 0x80 := by rwa [Text.toNat_ofNat_octet]
      rw [List.singleton_append, decodeBytes_cons (char_ne_of_isPlain hplain (by decide))
        (char_ne_of_isPlain hplain (by decide)), Text.utf8Bytes_singleton hchar,
        Text.toNat_ofNat_octet, UInt8.ofNat_toNat]
      rfl
    · rw [List.cons_append, List.cons_append, List.singleton_append, decodeBytes,
        hexNumber?_hexDigits]
      exact congrArg (· :: _) (UInt8.ofNat_toNat (x := b))

theorem decodeBytes_flatMap_encodeByte (bs : List UInt8) :
    decodeBytes (bs.flatMap encodeByte) = bs := by
  induction bs with
  | nil => rfl
  | cons b bs ih => rw [List.flatMap_cons, decodeBytes_encodeByte, ih]

/-! ### Texts -/

/-- What is written for a text reads back as this text. -/
theorem decodeText_encodeText (s : String) : decodeText (encodeText s) = s := by
  rw [decodeText, encodeText, decodeBytes_flatMap_encodeByte, Text.utf8Chars_utf8Bytes,
    String.ofList_toList]

theorem hexDigit_isAlphanum : ∀ n : Fin 16, (hexDigit n).isAlphanum = true := by decide

/-- The characters that texts are written with. -/
theorem mem_encodeText {s : String} {c : Char} (h : c ∈ encodeText s) :
    c.isAlphanum = true ∨ c ∈ ['*', '-', '.', '_', '+', '%'] := by
  obtain ⟨b, -, hb⟩ := List.mem_flatMap.mp h
  have hlt : b.toNat < 256 := b.toNat_lt
  unfold encodeByte at hb
  split at hb
  · obtain rfl := List.mem_singleton.mp hb
    exact .inr (by decide)
  · split at hb
    · next hplain =>
      obtain rfl := List.mem_singleton.mp hb
      rcases Bool.or_eq_true_iff.mp hplain with halnum | hmark
      · exact .inl halnum
      · exact .inr (List.mem_append_left ['+', '%'] (of_decide_eq_true hmark))
    · simp only [List.mem_cons, List.not_mem_nil, or_false] at hb
      rcases hb with rfl | rfl | rfl
      · exact .inr (by decide)
      · exact .inl (hexDigit_isAlphanum ⟨b.toNat / 16, by omega⟩)
      · exact .inl (hexDigit_isAlphanum ⟨b.toNat % 16, by omega⟩)

theorem not_mem_encodeText {c : Char} (halnum : c.isAlphanum = false)
    (hmark : c ∉ ['*', '-', '.', '_', '+', '%']) (s : String) : c ∉ encodeText s := by
  intro h
  rcases mem_encodeText h with h | h
  · exact Bool.false_ne_true (halnum.symm.trans h)
  · exact hmark h

theorem equals_not_mem_encodeText (s : String) : '=' ∉ encodeText s :=
  not_mem_encodeText (by decide) (by decide) s

theorem ampersand_not_mem_encodeText (s : String) : '&' ∉ encodeText s :=
  not_mem_encodeText (by decide) (by decide) s

/-! ### Pieces -/

section

variable {mark : Char} {s : List Char} (h : mark ∉ s)
include h

theorem forall_ne : ∀ c ∈ s, decide (c ≠ mark) = true := by
  intro c hc
  simpa using fun heq : c = mark => h (heq ▸ hc)

theorem takeWhile_ne_append_cons (t : List Char) :
    (s ++ mark :: t).takeWhile (· ≠ mark) = s := by
  rw [List.takeWhile_append_of_pos (forall_ne h)]
  simp

theorem dropWhile_ne_append_cons (t : List Char) :
    (s ++ mark :: t).dropWhile (· ≠ mark) = mark :: t := by
  rw [List.dropWhile_append_of_pos (forall_ne h)]
  simp

theorem takeWhile_ne_of_not_mem : s.takeWhile (· ≠ mark) = s := by
  have htake : (s ++ []).takeWhile (· ≠ mark) = s ++ [].takeWhile (· ≠ mark) :=
    List.takeWhile_append_of_pos (forall_ne h)
  simpa using htake

theorem dropWhile_ne_of_not_mem : s.dropWhile (· ≠ mark) = [] := by
  have hdrop : (s ++ []).dropWhile (· ≠ mark) = [].dropWhile (· ≠ mark) :=
    List.dropWhile_append_of_pos (forall_ne h)
  simpa using hdrop

end

/-! ### Parameters -/

/-- A name ends at the first equals sign. -/
theorem decodePair_append {name : List Char} (h : '=' ∉ name) (value : List Char) :
    decodePair (name ++ '=' :: value) = (decodeText name, decodeText value) := by
  rw [decodePair, takeWhile_ne_append_cons h, dropWhile_ne_append_cons h]
  rfl

/-- Without an equals sign all is name. -/
theorem decodePair_of_not_mem {cs : List Char} (h : '=' ∉ cs) :
    decodePair cs = (decodeText cs, "") := by
  rw [decodePair, takeWhile_ne_of_not_mem h, dropWhile_ne_of_not_mem h]
  rfl

theorem decodePair_encodePair (p : String × String) : decodePair (encodePair p) = p := by
  rw [encodePair, decodePair_append (equals_not_mem_encodeText p.1), decodeText_encodeText,
    decodeText_encodeText]

theorem encodePair_ne_nil (p : String × String) : encodePair p ≠ [] := by simp [encodePair]

theorem ampersand_not_mem_encodePair (p : String × String) : '&' ∉ encodePair p := by
  simp [encodePair, ampersand_not_mem_encodeText]

theorem cut_encode (p : String × String) (ps : List (String × String)) :
    Text.cut '&' (encode (p :: ps)) = encodePair p :: ps.map encodePair := by
  refine Text.cut_joinWith (List.cons_ne_nil _ _) fun s hs => ?_
  obtain ⟨q, -, rfl⟩ := List.mem_map.mp hs
  exact ampersand_not_mem_encodePair q

/-- The parameters that pieces between ampersands write. -/
def decodePieces (pieces : List (List Char)) : List (String × String) :=
  (pieces.filter (· ≠ [])).map decodePair

theorem decode_eq_decodePieces (cs : List Char) : decode cs = decodePieces (Text.cut '&' cs) := rfl

theorem decodePieces_append (pieces more : List (List Char)) :
    decodePieces (pieces ++ more) = decodePieces pieces ++ decodePieces more := by
  simp [decodePieces]

theorem decodePieces_encodePair (ps : List (String × String)) :
    decodePieces (ps.map encodePair) = ps := by
  have hfilter : (ps.map encodePair).filter (· ≠ []) = ps.map encodePair := by
    refine List.filter_eq_self.mpr fun s hs => ?_
    obtain ⟨p, -, rfl⟩ := List.mem_map.mp hs
    exact decide_eq_true (encodePair_ne_nil p)
  rw [decodePieces, hfilter, List.map_map]
  exact List.map_id'' decodePair_encodePair ps

/-- **What is written for parameters reads back as these parameters.** -/
theorem decode_encode (ps : List (String × String)) : decode (encode ps) = ps := by
  cases ps with
  | nil => rfl
  | cons p ps =>
    rw [decode_eq_decodePieces, cut_encode]
    exact decodePieces_encodePair (p :: ps)

theorem mem_joinWith {separator c : Char} {ss : List (List Char)}
    (h : c ∈ Text.joinWith separator ss) : c = separator ∨ ∃ s ∈ ss, c ∈ s := by
  fun_induction Text.joinWith separator ss with
  | case1 => cases h
  | case2 s => exact .inr ⟨s, List.mem_singleton_self s, h⟩
  | case3 s ss hne ih =>
    rcases List.mem_append.mp h with h | h
    · exact .inr ⟨s, List.mem_cons_self, h⟩
    · rcases List.mem_cons.mp h with h | h
      · exact .inl h
      · rcases ih h with h | ⟨t, ht, hc⟩
        · exact .inl h
        · exact .inr ⟨t, List.mem_cons_of_mem _ ht, hc⟩

/-- The characters that written forms are made of: ASCII letters, digits and a few marks. -/
theorem mem_encode {ps : List (String × String)} {c : Char} (h : c ∈ encode ps) :
    c.isAlphanum = true ∨ c ∈ ['*', '-', '.', '_', '+', '%', '&', '='] := by
  rcases mem_joinWith h with rfl | ⟨s, hs, hc⟩
  · exact .inr (by decide)
  · obtain ⟨p, -, rfl⟩ := List.mem_map.mp hs
    have htext {s : String} (h : c ∈ encodeText s) :
        c.isAlphanum = true ∨ c ∈ ['*', '-', '.', '_', '+', '%', '&', '='] :=
      (mem_encodeText h).imp_right fun h => List.mem_append_left ['&', '='] h
    rcases List.mem_append.mp hc with hc | hc
    · exact htext hc
    · rcases List.mem_cons.mp hc with rfl | hc
      · exact .inr (by decide)
      · exact htext hc

/-! ### Characters that stand for themselves -/

/-- A character has no part in how others are written: it is below 0x80, and it is no plus sign, no
percent sign and no hexadecimal digit. -/
structure Standalone (c : Char) : Prop where
  toNat_lt : c.toNat < 0x80
  ne_plus : c ≠ '+'
  ne_percent : c ≠ '%'
  hexValue?_eq : Text.hexValue? c = none

theorem standalone_questionMark : Standalone '?' := ⟨by decide, by decide, by decide, by decide⟩

theorem standalone_equals : Standalone '=' := ⟨by decide, by decide, by decide, by decide⟩

theorem Standalone.hexNumber?_left {c : Char} (hc : Standalone c) (b : Char) :
    Text.hexNumber? [c, b] = none := by
  simp [Text.hexNumber?, hc.hexValue?_eq]

theorem Standalone.hexNumber?_right {c : Char} (hc : Standalone c) (a : Char) :
    Text.hexNumber? [a, c] = none := by
  simp [Text.hexNumber?, hc.hexValue?_eq]

/-- No octet is written by characters on both sides of one that stands for itself. -/
theorem decodeBytes_append_cons {c : Char} (hc : Standalone c) (s t : List Char) :
    decodeBytes (s ++ c :: t) = decodeBytes s ++ decodeBytes (c :: t) := by
  -- Along the reader of what stands before: only its last case can reach beyond the end of `s`.
  fun_induction decodeBytes s with
  | case1 => rfl
  | case2 cs ih => rw [List.cons_append, decodeBytes, ih, List.cons_append]
  | case3 a b cs n hn ih =>
    simp only [List.cons_append]
    rw [decodeBytes, hn, ih]
  | case4 a b cs hn ih =>
    simp only [List.cons_append] at ih ⊢
    rw [decodeBytes, hn]
    simp only
    rw [ih]
  | case5 a cs hplus hpercent ih =>
    by_cases ha : a = '%'
    · -- The percent sign has at most one character behind it, so it stands for itself.
      subst ha
      cases cs with
      | nil => exact decodeBytes_percent fun b _ _ => hc.hexNumber?_left b
      | cons x xs =>
        cases xs with
        | nil =>
          show decodeBytes ('%' :: x :: c :: t) = _
          rw [decodeBytes_percent fun b rest h => by
            cases h
            exact hc.hexNumber?_right x]
          exact congrArg (_ :: ·) ih
        | cons y ys => exact absurd rfl (hpercent x y ys rfl)
    · rw [List.cons_append, decodeBytes_cons hplus ha, ih, List.append_assoc]

/-- What stands before a character that stands for itself is read as if nothing followed. -/
theorem decodeText_append_cons {c : Char} (hc : Standalone c) (s t : List Char) :
    decodeText (s ++ c :: t) = decodeText s ++ String.ofList (c :: (decodeText t).toList) := by
  have hlow : (UInt8.ofNat c.toNat).toNat = c.toNat :=
    Text.toNat_octet (Nat.lt_trans hc.toNat_lt (by decide))
  have hchars : Text.utf8Chars (decodeBytes (s ++ c :: t)) =
      Text.utf8Chars (decodeBytes s) ++ c :: Text.utf8Chars (decodeBytes t) := by
    rw [decodeBytes_append_cons hc, decodeBytes_cons hc.ne_plus hc.ne_percent,
      Text.utf8Bytes_singleton hc.toNat_lt, List.singleton_append,
      Text.utf8Chars_append_cons _ (by rw [hlow]; exact hc.toNat_lt), hlow, Char.ofNat_toNat]
  rw [decodeText, hchars, String.ofList_append]
  simp [decodeText]

theorem length_decodeText_append_cons {c : Char} (hc : Standalone c) (s t : List Char) :
    (decodeText (s ++ c :: t)).length = (decodeText s).length + (decodeText t).length + 1 := by
  rw [decodeText_append_cons hc, String.length_append, String.length_ofList, List.length_cons,
    String.length_toList, Nat.add_assoc]

/-- The number of characters in a parameter. -/
def size (p : String × String) : Nat := p.1.length + p.2.length

theorem size_decodePair_le (cs : List Char) : size (decodePair cs) ≤ (decodeText cs).length := by
  by_cases h : '=' ∈ cs
  · obtain ⟨name, value, rfl, hname⟩ := List.eq_append_cons_of_mem h
    rw [decodePair_append hname, length_decodeText_append_cons standalone_equals]
    exact Nat.le_succ _
  · rw [decodePair_of_not_mem h]
    exact Nat.le_refl _

/-- Two pieces that are run together at a character that stands for itself give a parameter that is
longer than the two that they give alone. -/
theorem size_decodePair_append_le {c : Char} (hc : Standalone c) (hne : c ≠ '=')
    (s t : List Char) :
    size (decodePair s) + size (decodePair t) + 1 ≤ size (decodePair (s ++ c :: t)) := by
  by_cases hs : '=' ∈ s
  · -- The first piece keeps its name, and its value takes in all of the second.
    obtain ⟨name, value, rfl, hname⟩ := List.eq_append_cons_of_mem hs
    have ht := size_decodePair_le t
    rw [List.append_assoc, List.cons_append, decodePair_append hname, decodePair_append hname]
    simp only [size] at ht ⊢
    rw [length_decodeText_append_cons hc]
    omega
  · rw [decodePair_of_not_mem hs]
    by_cases ht : '=' ∈ t
    · -- The second piece keeps its value, and its name takes in all of the first.
      obtain ⟨name, value, rfl, hname⟩ := List.eq_append_cons_of_mem ht
      have hboth : '=' ∉ s ++ c :: name := by
        simp [hs, hname, Ne.symm hne]
      rw [decodePair_append hname, ← List.cons_append, ← List.append_assoc,
        decodePair_append hboth]
      simp only [size]
      rw [length_decodeText_append_cons hc]
      simp
      omega
    · have hboth : '=' ∉ s ++ c :: t := by
        simp [hs, ht, Ne.symm hne]
      rw [decodePair_of_not_mem ht, decodePair_of_not_mem hboth]
      simp only [size]
      rw [length_decodeText_append_cons hc]
      simp

end Form

end OAuthClient
