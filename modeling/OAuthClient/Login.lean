import OAuthClient.Log
import OAuthClient.Login.AuthorizationRequest
import OAuthClient.Token.Verification

/-!
# Login

A login sends users to the provider of a registration and verifies the tokens that come back. It
keeps one key source per JWK set URI, from the first request for which the application had one.

## Main declarations

* `Login`: a login over a repository, with the key sources it has.
* `Login.authorizationUrl`: the URL that a user is sent to.
* `Login.verifyToken`: verifies a token; a `Login.Verification` is what comes of it.
-/

namespace OAuthClient

/-- A login. -/
structure Login where
  registrations : Repository
  logger : Logger := {}
  /-- The sources of the application, or those that are made where it has none. -/
  signingKeys : SigningKeys
  /-- The key sources, each under its JWK set URI. -/
  sources : List (String × KeySource) := []
  /-- The requests for sources and keys so far. -/
  requests : List KeyRequest := []

namespace Login

/-- The URL that sends a user to the provider of a registration. -/
def authorizationUrl (login : Login) (id state : String) (context : RedirectContext) :
    Except AuthorizationError String :=
  (login.registrations.authorizationRequest id state context).map (·.url)

/-! ### Verification of tokens -/

/-- Why a token is not accepted. -/
inductive TokenError where
  | unknownRegistration (registrationId : String)
  | noJwkSetUri (registrationId : String)
  /-- The payload should be JSON and is not. -/
  | payloadNotJson
  | malformed
  | failed (failure : Token.Failure)
  deriving DecidableEq, Repr

/-- The report of an error. -/
def TokenError.message : TokenError → String
  | unknownRegistration id => unknownRegistrationMessage id
  | noJwkSetUri id =>
    s!"Client registration '{id}' has no JWK set URI to verify ID tokens with"
  | payloadNotJson => "The payload of the ID token is not JSON"
  | malformed => "Invalid ID token format"
  | failed failure => s!"ID token verification failed: {failure.message}"

/-- The kind under which an error is reported. That of the JSON reader is passed on as it is. -/
def TokenError.kind : TokenError → String
  | payloadNotJson => "SyntaxError"
  | _ => "Error"

/-- What comes of the verification of a token: the login after it, its claims or an error, the log
lines and the requests that were made. -/
structure Verification where
  login : Login
  result : Except TokenError Value
  log : List LogLine := []
  requests : List KeyRequest := []

/-- Makes a request. -/
def request (login : Login) (r : KeyRequest) : Login :=
  { login with requests := login.requests ++ [r] }

/-- The key source of a JWK set URI. A new one is kept, and a log line tells of it. -/
def keySource (login : Login) (uri : String) :
    Login × Except String KeySource × List LogLine × List KeyRequest :=
  match login.sources.lookup uri with
  | some source => (login, .ok source, [], [])
  | none =>
    let after := login.request (.source uri)
    match login.signingKeys login.requests uri with
    | .error report => (after, .error report, [], [.source uri])
    | .ok source =>
      ({ after with sources := login.sources ++ [(uri, source)] }, .ok source,
        login.logger.write { level := .info, text := s!"JWKS client initialized for {uri}" },
        [.source uri])

/-- The key with an id from the source of a JWK set URI. -/
def key (login : Login) (uri : String) (keyId : Value) :
    Login × Except String KeyMaterial × List LogLine × List KeyRequest :=
  match login.keySource uri with
  | (login, .error report, log, requests) => (login, .error report, log, requests)
  | (login, .ok source, log, requests) =>
    (login.request (.key uri keyId), source login.requests keyId, log,
      requests ++ [.key uri keyId])

/-- Verifies a decoded token of a client with the keys of a JWK set URI. -/
def verifyDecoded (login : Login) (now : Int) (clientId uri : String) (token : Token) :
    Login × Except Token.Failure Value × List LogLine × List KeyRequest :=
  match (token.header.get? "kid").filter Token.isPresent with
  | none => (login, .error .missingKeyId, [], [])
  | some keyId =>
    match login.key uri keyId with
    | (login, .error report, log, requests) => (login, .error (.noKey report), log, requests)
    | (login, .ok material, log, requests) =>
      (login, token.verify material clientId now, log, requests)

/-- The log line for the outcome of a verification. -/
def outcomeLine : Except Token.Failure Value → LogLine
  | .ok _ => { level := .debug, text := "ID token signature verified successfully" }
  | .error failure =>
    { level := .error, text := "ID token signature verification failed:"
      detail := some failure.message }

/-- Verifies a token of a registration at a time in seconds. An empty JWK set URI counts as
missing. -/
def verifyToken (login : Login) (now : Int) (id token : String) : Verification :=
  match login.registrations.find? id with
  | none => { login, result := .error (.unknownRegistration id) }
  | some registration =>
    match registration.providerDetails.jwkSetUri with
    | none | some "" => { login, result := .error (.noJwkSetUri id) }
    | some uri =>
      match Token.decode token with
      | .error .payloadNotJson => { login, result := .error .payloadNotJson }
      | .error .malformed => { login, result := .error .malformed }
      | .ok token =>
        let (after, result, log, requests) :=
          login.verifyDecoded now registration.clientId uri token
        { login := after, result := result.mapError .failed, requests
          log := log ++ login.logger.write (outcomeLine result) }

end Login

end OAuthClient
