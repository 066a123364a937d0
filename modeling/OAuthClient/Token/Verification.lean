import OAuthClient.Login.SigningKeys
import OAuthClient.Token

/-!
# Verification of tokens

A token is verified with a key: its signature has to be one under an algorithm that is accepted, the
time has to lie between the times that it names, and it has to be meant for the client.

## Main declarations

* `Token.Failure`: why a token is not accepted.
* `Token.checkSignature`, `Token.checkTimes`, `Token.checkAudience`: the three checks; the times are
  those of `Token.checkNotBefore` and `Token.checkExpiry`.
* `Token.verify`: all of them.
-/

namespace OAuthClient

namespace Token

/-- Why a token is not accepted. -/
inductive Failure where
  | missingKeyId
  /-- There is no key, as a source reports. -/
  | noKey (report : String)
  | missingSignature
  | emptyKey
  | unknownAlgorithm
  /-- The key is no public key. -/
  | noPublicKey (algorithm : Algorithm)
  | signature (error : SignatureError)
  /-- The payload is null and so has no claims. -/
  | noClaims
  | badNotBefore
  | tooEarly
  | badExpiry
  | expired
  | otherAudience (clientId : String)
  deriving DecidableEq, Repr

/-- The report of a failure. -/
def Failure.message : Failure → String
  | missingKeyId => "ID token missing key ID (kid) in header"
  | noKey report => report
  | missingSignature => "jwt signature is required"
  | emptyKey => "secret or public key must be provided"
  | unknownAlgorithm => "invalid algorithm"
  | noPublicKey algorithm =>
    "secretOrPublicKey must be an asymmetric key when using " ++ algorithm.name
  | signature error => error.message
  | noClaims => "Cannot read properties of null (reading 'nbf')"
  | badNotBefore => "invalid nbf value"
  | tooEarly => "jwt not active"
  | badExpiry => "invalid exp value"
  | expired => "jwt expired"
  | otherAudience clientId => s!"jwt audience invalid. expected: {clientId}"

/-- The algorithm that the header names, if tokens are accepted under it. -/
def algorithm? (token : Token) : Option Algorithm :=
  match token.header.get? "alg" with
  | some (.text name) => Algorithm.ofName? name
  | _ => none

/-- Checks the signature of a token with a key. -/
def checkSignature (token : Token) (material : KeyMaterial) : Except Failure Unit :=
  let isSigned := token.signature ≠ []
  let hasKey := material ≠ .text ""
  if !isSigned && hasKey then .error .missingSignature
  else if isSigned && !hasKey then .error .emptyKey
  else match token.algorithm? with
    | none => .error .unknownAlgorithm
    | some algorithm =>
      match material with
      | .text _ => .error (.noPublicKey algorithm)
      | .key key =>
        (algorithm.check key (Text.utf8Bytes token.signed) (octets token.signature)).mapError
          .signature

/-- How far the clocks of provider and application may differ, in seconds. -/
def tolerance : Int := 60

/-- A claim of a token, if it is there. -/
def claim? (token : Token) (name : String) : Option Value := token.payload.get? name

/-- Checks that the time from which a token is accepted has come, give or take the tolerance. -/
def checkNotBefore (token : Token) (now : Int) : Except Failure Unit :=
  match token.claim? "nbf" with
  | none => .ok ()
  | some (.num n) =>
    if (Number.ofInt (now + tolerance)).lt n then .error .tooEarly else .ok ()
  | some _ => .error .badNotBefore

/-- Checks that the time at which a token expires has not come, give or take the tolerance. -/
def checkExpiry (token : Token) (now : Int) : Except Failure Unit :=
  match token.claim? "exp" with
  | none => .ok ()
  | some (.num n) =>
    let last := n.add (.ofInt tolerance)
    if last.lt (.ofInt now) || last.equal (.ofInt now) then .error .expired else .ok ()
  | some _ => .error .badExpiry

/-- Checks both times. -/
def checkTimes (token : Token) (now : Int) : Except Failure Unit := do
  token.checkNotBefore now
  token.checkExpiry now

/-- The clients that a token is meant for. -/
def audience (token : Token) : List Value :=
  match token.claim? "aud" with
  | some (.list xs) => xs
  | some v => [v]
  | none => []

/-- Checks that a token is meant for a client. An empty client id asks for no one in particular. -/
def checkAudience (token : Token) (clientId : String) : Except Failure Unit :=
  if clientId = "" || token.audience.contains (.text clientId) then .ok ()
  else .error (.otherAudience clientId)

/-- Verifies a token for a client with a key at a time in seconds, and gives its claims. -/
def verify (token : Token) (material : KeyMaterial) (clientId : String) (now : Int) :
    Except Failure Value := do
  token.checkSignature material
  if token.payload = .null then throw .noClaims
  token.checkTimes now
  token.checkAudience clientId
  return token.payload

end Token

end OAuthClient
