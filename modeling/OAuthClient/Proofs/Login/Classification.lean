import OAuthClient.Proofs.Login.KeySources
import OAuthClient.Proofs.Token

/-!
# How refused tokens are reported

A token that cannot be decoded is refused as malformed, and any other token that does not pass is
refused with a report of the failure, which the log has as well. The one error that is reported in
another way is that of the JSON reader: it is raised for a payload that should be JSON, because the
header calls the token one, and is not.

## Main statements

* `Token.decode_eq_payloadNotJson_iff`: when the JSON reader fails on the payload.
* `Token.IsDecodable`: a text is a token whose payload is JSON and no string.
* `Login.Reported`: a verification ends in one of the ways in which it should.
* `Login.reported_iff_not_hasBrokenPayload`: it does so unless the JSON reader fails on the payload.
-/

namespace OAuthClient

namespace Token

/-! ### Decoding -/

/-- The header of a token calls it one, and its payload is not JSON. -/
def HasBrokenPayload (s : String) : Prop :=
  ∃ header payload signature value, Splits s header payload signature ∧
    readHeader? header = some value ∧ value.get? "typ" = some (.text "JWT") ∧
    Json.read? (payloadText payload) = none

/-- A text is a token whose payload is JSON and no string. -/
def IsDecodable (s : String) : Prop :=
  ∃ token, decode s = .ok token ∧ ∀ text, token.payload ≠ .text text

/-- What is read as a list or a map is no string. -/
theorem collection?_ne_text (cs : List Char) (text : String) :
    collection? cs ≠ some (.text text) := by
  unfold collection?
  split
  · simp
  · simp
  · simp

theorem readPayload_ne_text (header : Value) (part : List Char) (text : String) :
    readPayload header part ≠ .ok (.text text) := by
  have hcollection : ∀ cs, (collection? cs).elim (.error DecodeError.malformed) Except.ok ≠
      .ok (.text text) := by
    intro cs h
    cases hcs : collection? cs with
    | none =>
      rw [hcs] at h
      cases h
    | some v =>
      rw [hcs] at h
      cases h
      exact collection?_ne_text cs text hcs
  unfold readPayload
  simp only
  split
  · split
    · simp
    · exact hcollection _
    · next v hv _ =>
      intro h
      cases h
      exact hv text rfl
  · exact hcollection _

/-- The JSON reader fails on the payload of a token that is called one. -/
theorem readPayload_eq_payloadNotJson_iff (header : Value) (part : List Char) :
    readPayload header part = .error .payloadNotJson ↔
      header.get? "typ" = some (.text "JWT") ∧ Json.read? (payloadText part) = none := by
  have hcollection : ∀ cs, (collection? cs).elim (.error DecodeError.malformed) Except.ok ≠
      .error .payloadNotJson := by
    intro cs
    cases collection? cs with
    | none => simp
    | some v => simp
  unfold readPayload payloadText
  by_cases htyp : header.get? "typ" = some (.text "JWT")
  · simp only [htyp, if_true, true_and]
    cases Json.read? (Text.utf8Chars (octets part)) with
    | none => simp
    | some v =>
      cases v with
      | text s => simp [hcollection]
      | _ => simp
  · simp [htyp, hcollection]

theorem decode_eq_payloadNotJson_iff (s : String) :
    decode s = .error .payloadNotJson ↔ HasBrokenPayload s := by
  unfold decode
  constructor
  · intro h
    split at h
    · cases h
    · next header payload signature hsplit =>
      split at h
      · cases h
      · next value hheader =>
        cases hread : readPayload value payload with
        | error e =>
          rw [hread] at h
          cases h
          obtain ⟨htyp, hjson⟩ := (readPayload_eq_payloadNotJson_iff value payload).mp hread
          exact ⟨header, payload, signature, value, (split?_eq_some_iff ..).mp hsplit, hheader,
            htyp, hjson⟩
        | ok claims =>
          rw [hread] at h
          cases h
  · rintro ⟨header, payload, signature, value, hsplits, hheader, htyp, hjson⟩
    have hread : readPayload value payload = .error .payloadNotJson :=
      (readPayload_eq_payloadNotJson_iff value payload).mpr ⟨htyp, hjson⟩
    rw [(split?_eq_some_iff ..).mpr hsplits]
    simp only [hheader, hread]
    rfl

/-- The payload of a token is no string. -/
theorem isDecodable_of_decode {s : String} {token : Token} (h : decode s = .ok token) :
    IsDecodable s := by
  obtain ⟨_, payload, -, -, -, hread⟩ := (decode_eq_ok_iff ..).mp h
  refine ⟨token, h, fun text htext => ?_⟩
  rw [htext] at hread
  exact readPayload_ne_text _ _ _ hread

theorem not_isDecodable_of_decode {s : String} {e : DecodeError} (h : decode s = .error e) :
    ¬ IsDecodable s := by
  rintro ⟨token, htoken, -⟩
  rw [h] at htoken
  cases htoken

end Token

namespace Login

/-! ### Reports -/

/-- The lines of a log at the level of errors. -/
def errorLines (log : List LogLine) : List LogLine := log.filter (·.level = .error)

/-- What a verification should end in: claims; or an error that tells that the token is malformed,
with nothing logged; or one that tells why it does not pass, with one error line that tells the
same. The token is malformed if it cannot be decoded to a payload that is JSON and no string. -/
inductive Reported (logger : Logger) (token : String) (v : Verification) : Prop
  | claims {claims : Value} (decodable : Token.IsDecodable token) (result : v.result = .ok claims)
  | malformed {error : TokenError} (undecodable : ¬ Token.IsDecodable token)
    (result : v.result = .error error) (kind : error.kind = "Error")
    (message : error.message = "Invalid ID token format") (log : v.log = [])
  | failed {error : TokenError} {report : String} (decodable : Token.IsDecodable token)
    (result : v.result = .error error) (kind : error.kind = "Error")
    (message : error.message = "ID token verification failed: " ++ report)
    (log : errorLines v.log = logger.write
      { level := .error, text := "ID token signature verification failed:", detail := some report })

/-- The log tells nothing at the level of errors while a key is looked for. -/
theorem errorLines_key (login : Login) (uri : String) (keyId : Value) :
    errorLines (login.key uri keyId).2.2.1 = [] := by
  rw [(keyStep login uri keyId).log_eq]
  refine List.filter_eq_nil_iff.mpr fun line hline => ?_
  obtain ⟨hmem, -⟩ := List.mem_filter.mp hline
  obtain ⟨source, -, rfl⟩ := List.mem_map.mp hmem
  simp [sourceLine]

theorem errorLines_verifyDecoded (login : Login) (now : Int) (clientId uri : String)
    (token : Token) : errorLines (login.verifyDecoded now clientId uri token).2.2.1 = [] := by
  cases hkey : (token.header.get? "kid").filter Token.isPresent with
  | none =>
    rw [verifyDecoded_of_missing login now clientId uri hkey]
    rfl
  | some keyId =>
    obtain ⟨outcome, -, hverify⟩ := login.verifyDecoded_of_present now clientId uri hkey
    rw [hverify]
    exact errorLines_key login uri keyId

/-- The line that tells of a failure is an error line. -/
theorem errorLines_write_outcomeLine (logger : Logger) (failure : Token.Failure) :
    errorLines (logger.write (outcomeLine (.error failure))) = logger.write
      { level := .error, text := "ID token signature verification failed:"
        detail := some failure.message } := by
  by_cases hlevel : LogLevel.error ∈ logger.levels
  · simp [errorLines, Logger.write, outcomeLine, hlevel]
  · simp [errorLines, Logger.write, outcomeLine, hlevel]

/-- The error of the JSON reader is none of the reports. -/
theorem not_reported_of_payloadNotJson {logger : Logger} {s : String} {v : Verification}
    (h : v.result = .error .payloadNotJson) : ¬ Reported logger s v := by
  rintro (⟨-, result⟩ | ⟨-, result, kind, -⟩ | ⟨-, result, kind, -⟩)
  · rw [h] at result
    cases result
  all_goals
    rw [h] at result
    cases result
    exact absurd kind (by decide)

section

variable {login : Login} {id uri : String} {registration : Registration}

/-- The verification of a token that is not decoded. -/
theorem verifyToken_of_decode_eq_error (hfind : login.registrations.find? id = some registration)
    (huri : registration.providerDetails.jwkSetUri = some uri) (hne : uri ≠ "") (now : Int)
    {s : String} {e : Token.DecodeError} (hdecode : Token.decode s = .error e) :
    login.verifyToken now id s =
      { login, result := .error (if e = .payloadNotJson then .payloadNotJson else .malformed) } := by
  unfold verifyToken
  simp only [hfind, huri, hdecode]
  cases e <;> rfl

/-- The verification of a token that is decoded. -/
theorem verifyToken_of_decode_eq_ok (hfind : login.registrations.find? id = some registration)
    (huri : registration.providerDetails.jwkSetUri = some uri) (hne : uri ≠ "") (now : Int)
    {s : String} {token : Token} (hdecode : Token.decode s = .ok token) :
    login.verifyToken now id s =
      let outcome := login.verifyDecoded now registration.clientId uri token
      { login := outcome.1, result := outcome.2.1.mapError .failed
        log := outcome.2.2.1 ++ login.logger.write (outcomeLine outcome.2.1)
        requests := outcome.2.2.2 } := by
  unfold verifyToken
  simp only [hfind, huri, hdecode]

/-- What becomes of a token that is decoded is reported. -/
theorem reported_of_decode (hfind : login.registrations.find? id = some registration)
    (huri : registration.providerDetails.jwkSetUri = some uri) (hne : uri ≠ "") (now : Int)
    {s : String} {token : Token} (hdecode : Token.decode s = .ok token) :
    Reported login.logger s (login.verifyToken now id s) := by
  have hdecodable : Token.IsDecodable s := Token.isDecodable_of_decode hdecode
  have herrors := login.errorLines_verifyDecoded now registration.clientId uri token
  rw [verifyToken_of_decode_eq_ok hfind huri hne now hdecode]
  generalize login.verifyDecoded now registration.clientId uri token = outcome at herrors
  obtain ⟨after, result, log, requests⟩ := outcome
  -- The search for the key logs no errors, so the only error line is that of the outcome.
  cases result with
  | ok claims => exact .claims hdecodable rfl
  | error failure =>
    have hmessage : (TokenError.failed failure).message =
        "ID token verification failed: " ++ failure.message := rfl
    refine .failed hdecodable rfl rfl hmessage ?_
    calc errorLines (log ++ login.logger.write (outcomeLine (.error failure)))
      _ = errorLines log ++ errorLines (login.logger.write (outcomeLine (.error failure))) :=
        List.filter_append ..
      _ = _ := by rw [show errorLines log = [] from herrors, errorLines_write_outcomeLine]; rfl

/-- **A token is refused with one of the two reports unless the JSON reader fails on its payload.**
Then its error is all that is reported, and the log tells nothing. -/
theorem reported_iff_not_hasBrokenPayload
    (hfind : login.registrations.find? id = some registration)
    (huri : registration.providerDetails.jwkSetUri = some uri) (hne : uri ≠ "") (now : Int)
    (token : String) :
    (Reported login.logger token (login.verifyToken now id token) ↔
      ¬ Token.HasBrokenPayload token) ∧
    (Token.HasBrokenPayload token → ∃ error,
      (login.verifyToken now id token).result = .error error ∧ error.kind = "SyntaxError" ∧
        (login.verifyToken now id token).log = []) := by
  rw [← Token.decode_eq_payloadNotJson_iff]
  cases hdecode : Token.decode token with
  | ok decoded =>
    have hreported := reported_of_decode hfind huri hne now hdecode
    exact ⟨⟨fun _ => nofun, fun _ => hreported⟩, nofun⟩
  | error e =>
    have hverify := verifyToken_of_decode_eq_error hfind huri hne now hdecode
    have hundecodable := Token.not_isDecodable_of_decode hdecode
    rw [hverify]
    cases e with
    | malformed =>
      exact ⟨⟨fun _ => nofun, fun _ => .malformed hundecodable rfl rfl rfl rfl⟩, nofun⟩
    | payloadNotJson =>
      exact ⟨⟨fun h => absurd h (not_reported_of_payloadNotJson rfl), fun h => absurd rfl h⟩,
        fun _ => ⟨_, rfl, rfl, rfl⟩⟩

end

/-- A token that is three parts but has neither header nor payload in JSON is refused as malformed. -/
theorem reported_of_broken_header :
    let login : Login := { registrations := ⟨[{ registrationId := "g", clientId := "c"
                                                providerDetails := { jwkSetUri := some "u" } }],
                                              by simp⟩
                           signingKeys := .unreachable }
    ∃ registration, login.registrations.find? "g" = some registration ∧
      registration.providerDetails.jwkSetUri = some "u" ∧ "u" ≠ "" ∧
      Reported login.logger "eA.eA." (login.verifyToken 150 "g" "eA.eA.") := by
  intro login
  refine ⟨_, rfl, rfl, by decide, ?_⟩
  refine (reported_iff_not_hasBrokenPayload rfl rfl (by decide) 150 _).1.mpr ?_
  rintro ⟨header, payload, signature, value, hsplits, hheader, -⟩
  have hparts : Token.split? "eA.eA." = some (['e', 'A'], ['e', 'A'], []) := by decide +kernel
  rw [(Token.split?_eq_some_iff ..).mpr hsplits] at hparts
  cases hparts
  have hnone : Token.readHeader? ['e', 'A'] = none := by decide +kernel
  rw [hnone] at hheader
  cases hheader

/-- The payload of this token is the letter x, which is no JSON, and its header says that the type
is JWT. -/
theorem not_reported_of_broken_payload :
    let login : Login := { registrations := ⟨[{ registrationId := "g", clientId := "c"
                                                providerDetails := { jwkSetUri := some "u" } }],
                                              by simp⟩
                           signingKeys := .unreachable }
    ¬ Reported login.logger "eyJ0eXAiOiJKV1QifQ.eA."
      (login.verifyToken 150 "g" "eyJ0eXAiOiJKV1QifQ.eA.") := by
  intro login
  have hbroken : Token.HasBrokenPayload "eyJ0eXAiOiJKV1QifQ.eA." :=
    ⟨"eyJ0eXAiOiJKV1QifQ".toList, ['e', 'A'], [], .map [("typ", .text "JWT")],
      (Token.split?_eq_some_iff ..).mp (by decide +kernel), by decide +kernel, by decide +kernel,
      by decide +kernel⟩
  have hdecode := (Token.decode_eq_payloadNotJson_iff _).mpr hbroken
  refine not_reported_of_payloadNotJson ?_
  rw [verifyToken_of_decode_eq_error rfl rfl (by decide) 150 hdecode]
  rfl

end Login

end OAuthClient
