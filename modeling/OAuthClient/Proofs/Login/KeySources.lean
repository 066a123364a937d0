import OAuthClient.Proofs.Login.Run
import OAuthClient.Proofs.Token.Verification

/-!
# When key sources are asked for

A token that is well formed and names a key needs that key, from the JWK set of its registration.
Only for such a token does a login ask the application for the source of a JWK set, and only if it
has not been given that source before; a source that the application failed to give is asked for
again. So what a login remembers is just what the application has given it, each source once.

## Main statements

* `SigningKeys.given`: the sources that the application gave when requests were made.
* `Repository.NeedsKey`: the key that a token needs, and the JWK set URI that it has to come from.
* `Login.Advanced`: what requests make of a login; `Login.advanced_run` says so of every run.
* `Login.Verified`: how the verification of a token ends.
* `Login.Inquiry`: the requests and log lines of a verification; `Login.sources_given_once`: they
  are so after every run, and no source is given twice.
-/

namespace OAuthClient

/-! ### What the application has given -/

/-- The sources that the application gives when some requests are made after those of a history,
each with its JWK set URI, in order. -/
def SigningKeys.given (signingKeys : SigningKeys) (history : List KeyRequest) :
    List KeyRequest → List (String × KeySource)
  | [] => []
  | .key uri keyId :: requests => given signingKeys (history ++ [.key uri keyId]) requests
  | .source uri :: requests =>
    let later := given signingKeys (history ++ [.source uri]) requests
    match signingKeys history uri with
    | .error _ => later
    | .ok source => (uri, source) :: later

theorem SigningKeys.given_append (signingKeys : SigningKeys)
    (history requests more : List KeyRequest) :
    signingKeys.given history (requests ++ more) =
      signingKeys.given history requests ++ signingKeys.given (history ++ requests) more := by
  induction requests generalizing history with
  | nil => simp [given]
  | cons r requests ih =>
    cases r with
    | key uri keyId => simp [given, ih]
    | source uri =>
      rw [List.cons_append, given, given, ih]
      cases signingKeys history uri with
      | error report => simp
      | ok source => simp

/-! ### The key that a token needs -/

/-- A token of a registration is well formed and names a key, which has to come from the JWK set of
the registration. -/
def Repository.NeedsKey (registrations : Repository) (id token uri : String) (keyId : Value) :
    Prop :=
  ∃ registration decoded, registrations.find? id = some registration ∧
    registration.providerDetails.jwkSetUri = some uri ∧ uri ≠ "" ∧
    Token.decode token = .ok decoded ∧ decoded.header.get? "kid" = some keyId ∧
    Token.isPresent keyId = true

/-- A token needs no more than one key. -/
theorem Repository.NeedsKey.unique {registrations : Repository} {id token uri uri' : String}
    {keyId keyId' : Value} (h : registrations.NeedsKey id token uri keyId)
    (h' : registrations.NeedsKey id token uri' keyId') : uri = uri' ∧ keyId = keyId' := by
  obtain ⟨registration, decoded, hfind, huri, -, hdecode, hkeyId, -⟩ := h
  obtain ⟨registration', decoded', hfind', huri', -, hdecode', hkeyId', -⟩ := h'
  obtain rfl : registration = registration' := Option.some.inj (hfind.symm.trans hfind')
  obtain rfl : decoded = decoded' := Except.ok.inj (hdecode.symm.trans hdecode')
  exact ⟨Option.some.inj (huri.symm.trans huri'), Option.some.inj (hkeyId.symm.trans hkeyId')⟩

namespace Login

/-- The errors of tokens that are refused before a key is looked for. -/
def TokenError.BeforeKey : TokenError → Prop
  | .unknownRegistration _ | .noJwkSetUri _ | .payloadNotJson | .malformed
  | .failed .missingKeyId => True
  | .failed _ => False

/-! ### What requests make of a login -/

/-- A login after some requests: it has noted them, and it remembers what the application gave. -/
structure Advanced (login after : Login) (requests : List KeyRequest) : Prop where
  registrations_eq : after.registrations = login.registrations
  logger_eq : after.logger = login.logger
  signingKeys_eq : after.signingKeys = login.signingKeys
  requests_eq : after.requests = login.requests ++ requests
  sources_eq : after.sources = login.sources ++ login.signingKeys.given login.requests requests
  /-- No JWK set URI is remembered twice. -/
  nodup : (login.sources.map (·.1)).Nodup → (after.sources.map (·.1)).Nodup

theorem Advanced.refl (login : Login) : Advanced login login [] where
  registrations_eq := rfl
  logger_eq := rfl
  signingKeys_eq := rfl
  requests_eq := (List.append_nil _).symm
  sources_eq := (List.append_nil _).symm
  nodup := id

theorem Advanced.trans {login after later : Login} {requests more : List KeyRequest}
    (h : Advanced login after requests) (h' : Advanced after later more) :
    Advanced login later (requests ++ more) where
  registrations_eq := h'.registrations_eq.trans h.registrations_eq
  logger_eq := h'.logger_eq.trans h.logger_eq
  signingKeys_eq := h'.signingKeys_eq.trans h.signingKeys_eq
  requests_eq := by rw [h'.requests_eq, h.requests_eq, List.append_assoc]
  sources_eq := by
    rw [h'.sources_eq, h.sources_eq, h.signingKeys_eq, h.requests_eq, SigningKeys.given_append,
      List.append_assoc]
  nodup := h'.nodup ∘ h.nodup

/-- The log line that tells of a new source. -/
def sourceLine (uri : String) : LogLine :=
  { level := .info, text := s!"JWKS client initialized for {uri}" }

/-- The source of a JWK set URI is remembered, or the application is asked for it. It gives none, or
one that is remembered from then on, and of which the log tells. -/
inductive SourceStep (login : Login) (uri : String) :
    Login × Except String KeySource × List LogLine × List KeyRequest → Prop
  | remembered {source : KeySource} (known : login.sources.lookup uri = some source) :
    SourceStep login uri (login, .ok source, [], [])
  | refused {after : Login} {report : String} (unknown : uri ∉ login.sources.map (·.1))
    (given : login.signingKeys.given login.requests [.source uri] = [])
    (advanced : Advanced login after [.source uri]) :
    SourceStep login uri (after, .error report, [], [.source uri])
  | given {after : Login} {source : KeySource} (unknown : uri ∉ login.sources.map (·.1))
    (given : login.signingKeys.given login.requests [.source uri] = [(uri, source)])
    (advanced : Advanced login after [.source uri]) :
    SourceStep login uri
      (after, .ok source, login.logger.write (sourceLine uri), [.source uri])

theorem sourceStep (login : Login) (uri : String) :
    SourceStep login uri (login.keySource uri) := by
  unfold keySource
  cases hlookup : login.sources.lookup uri with
  | some source => exact .remembered hlookup
  | none =>
    have hunknown : uri ∉ login.sources.map (·.1) := by
      intro hmem
      obtain ⟨entry, hentry, rfl⟩ := List.mem_map.mp hmem
      have := List.lookup_eq_none_iff.mp hlookup entry hentry
      simp at this
    simp only
    cases hanswer : login.signingKeys login.requests uri with
    | error report =>
      have hgiven : login.signingKeys.given login.requests [.source uri] = [] := by
        simp [SigningKeys.given, hanswer]
      exact .refused hunknown hgiven ⟨rfl, rfl, rfl, rfl, by simp [hgiven, request], id⟩
    | ok source =>
      have hgiven : login.signingKeys.given login.requests [.source uri] = [(uri, source)] := by
        simp [SigningKeys.given, hanswer]
      refine .given hunknown hgiven ⟨rfl, rfl, rfl, rfl, by rw [hgiven], fun hnodup => ?_⟩
      rw [List.map_append, List.nodup_append]
      refine ⟨hnodup, by simp, ?_⟩
      rintro known hknown _ hnew rfl
      obtain rfl : known = uri := by simpa using hnew
      exact hunknown hknown

/-- A key is asked of the source of its JWK set URI, which the application is asked for first unless
it is remembered. -/
structure KeyStep (login : Login) (uri : String) (keyId : Value)
    (outcome : Login × Except String KeyMaterial × List LogLine × List KeyRequest) : Prop where
  advanced : Advanced login outcome.1 outcome.2.2.2
  requests_eq : outcome.2.2.2 =
    (if uri ∈ login.sources.map (·.1) then [] else [.source uri]) ++
      (if uri ∈ outcome.1.sources.map (·.1) then [.key uri keyId] else [])
  log_eq : outcome.2.2.1 = login.logger.restrict
    ((login.signingKeys.given login.requests outcome.2.2.2).map fun s => sourceLine s.1)
  answer : uri ∈ outcome.1.sources.map (·.1) → ∃ source history,
    (uri, source) ∈ outcome.1.sources ∧ outcome.1.requests = history ++ [.key uri keyId] ∧
      outcome.2.1 = source history keyId

/-- A request for a key is noted; it brings no source. -/
theorem advanced_request_key (login : Login) (uri : String) (keyId : Value) :
    Advanced login (login.request (.key uri keyId)) [.key uri keyId] where
  registrations_eq := rfl
  logger_eq := rfl
  signingKeys_eq := rfl
  requests_eq := rfl
  sources_eq := by simp [SigningKeys.given, request]
  nodup := id

theorem keyStep (login : Login) (uri : String) (keyId : Value) :
    KeyStep login uri keyId (login.key uri keyId) := by
  have hstep := sourceStep login uri
  unfold key
  generalize login.keySource uri = outcome at hstep
  cases hstep with
  | @remembered source known =>
    have hmem : (uri, source) ∈ login.sources := by
      obtain ⟨before, later, hsplit, -⟩ := List.lookup_eq_some_iff.mp known
      rw [hsplit]
      exact List.mem_append_right _ List.mem_cons_self
    have huri : uri ∈ login.sources.map (·.1) := List.mem_map_of_mem hmem
    have hafter : uri ∈ (login.request (.key uri keyId)).sources.map (·.1) := huri
    exact {
      advanced := advanced_request_key login uri keyId
      requests_eq := by rw [if_pos huri, if_pos hafter]
      log_eq := by simp [SigningKeys.given, Logger.restrict]
      answer := fun _ => ⟨source, login.requests, hmem, rfl, rfl⟩ }
  | @refused after report unknown given advanced =>
    have hafter : uri ∉ after.sources.map (·.1) := by
      rwa [advanced.sources_eq, given, List.append_nil]
    exact {
      advanced
      requests_eq := by rw [if_neg unknown, if_neg hafter]; rfl
      log_eq := by simp [given, Logger.restrict]
      answer := fun h => absurd h hafter }
  | @given after source unknown given advanced =>
    have hmem : (uri, source) ∈ after.sources := by
      rw [advanced.sources_eq, given]
      exact List.mem_append_right _ (List.mem_singleton_self _)
    have hafter : uri ∈ (after.request (.key uri keyId)).sources.map (·.1) :=
      List.mem_map_of_mem hmem
    have hboth := advanced.trans (advanced_request_key after uri keyId)
    exact {
      advanced := hboth
      requests_eq := by rw [if_neg unknown, if_pos hafter]
      log_eq := by
        rw [SigningKeys.given_append, given, Logger.write_eq_restrict]
        rfl
      answer := fun _ => ⟨source, after.requests, hmem, rfl, rfl⟩ }

/-! ### Verifications -/

/-- The verification of a token ends before a key is looked for, with nothing done, or a key that
the token needs is looked for, and what comes of that is told. -/
inductive Verified (login : Login) (id token : String) : Verification → Prop
  | refused {error : TokenError} {log : List LogLine} (early : error.BeforeKey)
    (unneeded : ∀ uri keyId, ¬ login.registrations.NeedsKey id token uri keyId)
    (silent : ∀ line ∈ log, line.level ≠ .info) :
    Verified login id token { login, result := .error error, log }
  | sought {uri : String} {keyId : Value} {outcome : Except Token.Failure Value}
    (needed : login.registrations.NeedsKey id token uri keyId)
    (late : outcome ≠ .error .missingKeyId) :
    Verified login id token
      { login := (login.key uri keyId).1, result := outcome.mapError .failed
        log := (login.key uri keyId).2.2.1 ++ login.logger.write (outcomeLine outcome)
        requests := (login.key uri keyId).2.2.2 }

/-- No outcome is told at the level at which new sources are. -/
theorem level_ne_info_of_mem_write_outcomeLine {logger : Logger}
    {outcome : Except Token.Failure Value} {line : LogLine}
    (h : line ∈ logger.write (outcomeLine outcome)) : line.level ≠ .info := by
  have hline : line = outcomeLine outcome := by
    unfold Logger.write at h
    split at h
    · exact List.mem_singleton.mp h
    · cases h
  rw [hline]
  cases outcome with
  | ok claims => simp [outcomeLine]
  | error failure => simp [outcomeLine]

/-- A decoded token that names no key is refused. -/
theorem verifyDecoded_of_missing (login : Login) (now : Int) (clientId uri : String) {token : Token}
    (h : (token.header.get? "kid").filter Token.isPresent = none) :
    login.verifyDecoded now clientId uri token = (login, .error .missingKeyId, [], []) := by
  unfold verifyDecoded
  rw [h]

/-- The key that a decoded token names is looked for, and the token is verified with it. -/
theorem verifyDecoded_of_present (login : Login) (now : Int) (clientId uri : String) {token : Token}
    {keyId : Value} (h : (token.header.get? "kid").filter Token.isPresent = some keyId) :
    ∃ outcome, outcome ≠ .error .missingKeyId ∧ login.verifyDecoded now clientId uri token =
      ((login.key uri keyId).1, outcome, (login.key uri keyId).2.2.1,
        (login.key uri keyId).2.2.2) := by
  unfold verifyDecoded
  simp only [h]
  generalize login.key uri keyId = outcome
  obtain ⟨after, result, log, requests⟩ := outcome
  cases result with
  | error report => exact ⟨.error (.noKey report), by simp, rfl⟩
  | ok material =>
    exact ⟨token.verify material clientId now, token.verify_ne_missingKeyId material clientId now,
      rfl⟩

theorem verified (login : Login) (now : Int) (id token : String) :
    Verified login id token (login.verifyToken now id token) := by
  by_cases hneeded : ∃ uri keyId, login.registrations.NeedsKey id token uri keyId
  · obtain ⟨uri, keyId, registration, decoded, hfind, huri, hne, hdecode, hkeyId, hpresent⟩ :=
      hneeded
    have hkey : (decoded.header.get? "kid").filter Token.isPresent = some keyId :=
      Option.filter_eq_some_iff.mpr ⟨hkeyId, hpresent⟩
    obtain ⟨outcome, hlate, hverify⟩ :=
      login.verifyDecoded_of_present now registration.clientId uri hkey
    unfold verifyToken
    simp only [hfind, huri, hdecode, hverify]
    exact .sought ⟨registration, decoded, hfind, huri, hne, hdecode, hkeyId, hpresent⟩ hlate
  · have hunneeded : ∀ uri keyId, ¬ login.registrations.NeedsKey id token uri keyId :=
      fun uri keyId h => hneeded ⟨uri, keyId, h⟩
    unfold verifyToken
    split
    · exact .refused trivial hunneeded (by simp)
    · next registration hfind =>
      split
      · exact .refused trivial hunneeded (by simp)
      · exact .refused trivial hunneeded (by simp)
      · next uri hne huri =>
        split
        · exact .refused trivial hunneeded (by simp)
        · exact .refused trivial hunneeded (by simp)
        · next decoded hdecode =>
          cases hkey : (decoded.header.get? "kid").filter Token.isPresent with
          | none =>
            rw [verifyDecoded_of_missing login now registration.clientId uri hkey]
            exact .refused trivial hunneeded fun line hline =>
              level_ne_info_of_mem_write_outcomeLine hline
          | some keyId =>
            obtain ⟨hkeyId, hpresent⟩ := Option.filter_eq_some_iff.mp hkey
            exact absurd ⟨registration, decoded, hfind, huri, hne, hdecode, hkeyId, hpresent⟩
              (hunneeded uri keyId)

/-- A verification only makes requests. -/
theorem Verified.advanced {login : Login} {id token : String} {v : Verification}
    (h : Verified login id token v) : Advanced login v.login v.requests := by
  cases h with
  | refused early unneeded silent => exact .refl login
  | sought needed late => exact (keyStep login _ _).advanced

theorem advanced_perform (login : Login) (step : Step) :
    ∃ requests, Advanced login (login.perform step).1 requests := by
  cases step with
  | authorizationUrl id state context => exact ⟨[], .refl login⟩
  | redirectUri registration context => exact ⟨[], .refl login⟩
  | verifyToken now id token => exact ⟨_, (verified login now id token).advanced⟩

theorem advanced_run (login : Login) (steps : List Step) :
    ∃ requests, Advanced login (login.run steps) requests := by
  induction steps generalizing login with
  | nil => exact ⟨[], .refl login⟩
  | cons step steps ih =>
    obtain ⟨requests, hstep⟩ := advanced_perform login step
    obtain ⟨more, hrest⟩ := ih (login.perform step).1
    exact ⟨requests ++ more, hstep.trans hrest⟩

/-- A failure of a token that names a key is none that comes before the key is looked for. -/
theorem not_beforeKey_of_mapError {outcome : Except Token.Failure Value} {error : TokenError}
    (late : outcome ≠ .error .missingKeyId) (h : outcome.mapError .failed = .error error) :
    ¬ error.BeforeKey := by
  cases outcome with
  | ok claims => cases h
  | error failure =>
    cases h
    cases failure with
    | missingKeyId => exact absurd rfl late
    | _ => exact id

theorem Verified.refused_iff {login : Login} {id token : String} {v : Verification}
    (h : Verified login id token v) : (∃ error, v.result = .error error ∧ error.BeforeKey) ↔
      ¬ ∃ uri keyId, login.registrations.NeedsKey id token uri keyId := by
  cases h with
  | refused early unneeded silent =>
    exact iff_of_true ⟨_, rfl, early⟩ fun ⟨uri, keyId, needed⟩ => unneeded uri keyId needed
  | sought needed late =>
    refine iff_of_false (fun ⟨error, hresult, hearly⟩ => ?_) (fun hnot => hnot ⟨_, _, needed⟩)
    exact not_beforeKey_of_mapError late hresult hearly

/-- The lines about new sources are those of the sources that are given. -/
theorem Verified.info_eq {login : Login} {id token : String} {v : Verification}
    (h : Verified login id token v) : v.log.filter (·.level = .info) = login.logger.restrict
      ((login.signingKeys.given login.requests v.requests).map fun s => sourceLine s.1) := by
  cases h with
  | @refused error log early unneeded silent =>
    have hnone : log.filter (·.level = .info) = [] :=
      List.filter_eq_nil_iff.mpr fun line hline => by simpa using silent line hline
    simpa [SigningKeys.given, Logger.restrict] using hnone
  | @sought uri keyId outcome needed late =>
    have htold : (login.logger.write (outcomeLine outcome)).filter (·.level = .info) = [] :=
      List.filter_eq_nil_iff.mpr fun line hline => by
        simpa using level_ne_info_of_mem_write_outcomeLine hline
    rw [List.filter_append, htold, List.append_nil, (keyStep login uri keyId).log_eq,
      List.filter_eq_self.mpr]
    intro line hline
    obtain ⟨source, -, rfl⟩ := List.mem_map.mp (List.mem_filter.mp hline).1
    rfl

/-! ### Runs of a new login -/

/-- The requests and log lines of the verification of a token by a login that was `fresh` when it
was made. -/
structure Inquiry (fresh before : Login) (id token : String) (v : Verification) : Prop where
  /-- A source is asked for just if it has not been given before, and then a key if there is a
  source to ask. Both are for the JWK set URI and the key id that the token needs. -/
  requests_eq : ∀ {uri keyId}, fresh.registrations.NeedsKey id token uri keyId →
    v.requests =
      (if uri ∈ (fresh.signingKeys.given [] before.requests).map (·.1) then []
        else [.source uri]) ++
      (if uri ∈ (fresh.signingKeys.given [] v.login.requests).map (·.1) then [.key uri keyId]
        else [])
  /-- The key is that of the source which the application has given for the URI. -/
  key_eq : ∀ {uri keyId}, fresh.registrations.NeedsKey id token uri keyId →
    uri ∈ (fresh.signingKeys.given [] v.login.requests).map (·.1) → ∃ source history,
      (uri, source) ∈ fresh.signingKeys.given [] v.login.requests ∧
        v.login.requests = history ++ [.key uri keyId] ∧
        (before.key uri keyId).2.1 = source history keyId
  /-- A token that needs no key is refused early, and only such a token is. -/
  refused_iff : (∃ error, v.result = .error error ∧ error.BeforeKey) ↔
    ¬ ∃ uri keyId, fresh.registrations.NeedsKey id token uri keyId
  /-- Then nothing is asked for, and nothing is remembered. -/
  unchanged : (∃ error, v.result = .error error ∧ error.BeforeKey) →
    v.requests = [] ∧ v.login = before
  /-- Each source that is given is told of, and nothing else is told in such a line. -/
  info_eq : v.log.filter (·.level = .info) = fresh.logger.restrict
    ((fresh.signingKeys.given before.requests v.requests).map fun s => sourceLine s.1)

/-- A login that was new remembers just what the application has given it. -/
theorem Advanced.sources_eq_given {registrations : Repository} {logger : Logger}
    {signingKeys : SigningKeys} {after : Login} {requests : List KeyRequest}
    (h : Advanced { registrations, logger, signingKeys } after requests) :
    after.sources = signingKeys.given [] after.requests := by
  rw [h.sources_eq, h.requests_eq]
  rfl

/-- A login that was new inquires as described, whatever requests it has made. -/
theorem Advanced.inquiry {registrations : Repository} {logger : Logger}
    {signingKeys : SigningKeys} {before : Login} {requests : List KeyRequest}
    (hbefore : Advanced { registrations, logger, signingKeys } before requests) (now : Int)
    (id token : String) : Inquiry { registrations, logger, signingKeys } before id token
      (before.verifyToken now id token) := by
  have hverified := verified before now id token
  have hsources := hbefore.sources_eq_given
  have hafter := (hbefore.trans hverified.advanced).sources_eq_given
  generalize before.verifyToken now id token = v at hverified hafter
  have hregistrations : before.registrations = registrations := hbefore.registrations_eq
  have hsigningKeys : before.signingKeys = signingKeys := hbefore.signingKeys_eq
  have hlogger : before.logger = logger := hbefore.logger_eq
  have hrefused := hverified.refused_iff
  have hinfo := hverified.info_eq
  rw [hregistrations] at hrefused
  rw [hlogger, hsigningKeys] at hinfo
  cases hverified with
  | refused early unneeded silent =>
    rw [hregistrations] at unneeded
    exact {
      requests_eq := fun needed => absurd needed (unneeded _ _)
      key_eq := fun needed => absurd needed (unneeded _ _)
      refused_iff := hrefused
      unchanged := fun _ => ⟨rfl, rfl⟩
      info_eq := hinfo }
  | @sought uri keyId outcome needed late =>
    rw [hregistrations] at needed
    have hstep := keyStep before uri keyId
    have hrequests := hstep.requests_eq
    have hanswer := hstep.answer
    rw [hsources, hafter] at hrequests
    rw [hafter] at hanswer
    exact {
      requests_eq := fun needed' => by
        obtain ⟨rfl, rfl⟩ := needed.unique needed'
        exact hrequests
      key_eq := fun needed' => by
        obtain ⟨rfl, rfl⟩ := needed.unique needed'
        exact hanswer
      refused_iff := hrefused
      unchanged := fun early => absurd ⟨uri, keyId, needed⟩ (hrefused.mp early)
      info_eq := hinfo }

/-- **Key sources are asked for once, for the right registration, and only when needed.** After any
run, a new login remembers what the application has given it, and it has been given no source twice.
The next token leads to requests only if it needs a key, and then to the one for the source of that
key, unless this is remembered, and to the one for the key, unless there is no source. -/
theorem sources_given_once (registrations : Repository) (logger : Logger)
    (signingKeys : SigningKeys) (steps : List Step) :
    let fresh : Login := { registrations, logger, signingKeys }
    let before := fresh.run steps
    before.sources = signingKeys.given [] before.requests ∧
      ((signingKeys.given [] before.requests).map (·.1)).Nodup ∧
      ∀ now id token, Inquiry fresh before id token (before.verifyToken now id token) := by
  intro fresh before
  obtain ⟨requests, hbefore⟩ := advanced_run fresh steps
  have hsources : before.sources = signingKeys.given [] before.requests :=
    hbefore.sources_eq_given
  have hnodup : (before.sources.map (·.1)).Nodup := hbefore.nodup List.nodup_nil
  exact ⟨hsources, hsources ▸ hnodup, hbefore.inquiry⟩

-- A source that could not be given at first is asked for again, and then remembered.
example :
    let registrations : Repository := ⟨[{ registrationId := "g", clientId := "c"
                                          providerDetails := { jwkSetUri := some "u" } }], by simp⟩
    let signingKeys : SigningKeys := fun history _ =>
      if history.isEmpty then .error "down" else .ok fun _ _ => .ok (.text "")
    let step : Step := .verifyToken 0 "g" "eyJraWQiOiJrIn0.e30."
    (run { registrations, signingKeys } [step, step, step]).requests =
      [.source "u", .source "u", .key "u" (.text "k"), .key "u" (.text "k")] := by
  decide +kernel

end Login

end OAuthClient
