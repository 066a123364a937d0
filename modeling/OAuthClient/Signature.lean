import OAuthClient.Signature.Ecdsa

/-!
# Signature algorithms

## Main declarations

* `Algorithm`: the algorithms under which tokens are accepted.
* `PublicKey`: a key of either type.
* `Algorithm.check`: whether a signature is one under an algorithm with a key; `SignatureError`
  says why it cannot be.
-/

namespace OAuthClient

/-- The algorithms under which tokens are accepted. -/
inductive Algorithm where
  | rsa (digest : Digest)
  | ecdsa (digest : Digest)
  deriving DecidableEq, Repr

namespace Algorithm

/-- The number of bits of a digest, as a text. -/
def bits : Digest → String
  | .sha256 => "256"
  | .sha384 => "384"
  | .sha512 => "512"

/-- The name of an algorithm. -/
def name : Algorithm → String
  | rsa d => "RS" ++ bits d
  | ecdsa d => "ES" ++ bits d

/-- All algorithms. -/
def all : List Algorithm :=
  [rsa .sha256, rsa .sha384, rsa .sha512, ecdsa .sha256, ecdsa .sha384, ecdsa .sha512]

/-- The algorithm with a name. -/
def ofName? (name : String) : Option Algorithm := all.find? (·.name == name)

/-- The curve whose keys sign with a digest. -/
def curve : Digest → Curve
  | .sha256 => .p256
  | .sha384 => .p384
  | .sha512 => .p521

end Algorithm

/-- The name of a curve. -/
def Curve.name : Curve → String
  | p256 => "prime256v1"
  | p384 => "secp384r1"
  | p521 => "secp521r1"

/-- A key of either type. -/
inductive PublicKey where
  | rsa (key : Rsa.PublicKey)
  | ecdsa (key : Ecdsa.PublicKey)
  deriving DecidableEq, Repr

/-- Why a signature is not one under an algorithm with a key. -/
inductive SignatureError where
  /-- The key is an RSA key and the algorithm is not for those. -/
  | otherThanRsa
  /-- The key is a key on a curve and the algorithm is not for those. -/
  | otherThanEcdsa
  /-- The algorithm is for keys on another curve. -/
  | otherCurve (digest : Digest)
  /-- The signature has the wrong number of octets. -/
  | wrongSize (digest : Digest) (size : Nat)
  /-- The signature is not one of the message. -/
  | invalid
  deriving DecidableEq, Repr

/-- The report of an error. -/
def SignatureError.message : SignatureError → String
  | otherThanRsa => "\"alg\" parameter for \"rsa\" key type must be one of: " ++
      "RS256, PS256, RS384, PS384, RS512, PS512."
  | otherThanEcdsa => "\"alg\" parameter for \"ec\" key type must be one of: ES256, ES384, ES512."
  | otherCurve d => "\"alg\" parameter \"" ++ (Algorithm.ecdsa d).name ++ "\" requires curve \"" ++
      (Algorithm.curve d).name ++ "\"."
  | wrongSize d size => "\"" ++ (Algorithm.ecdsa d).name ++ "\" signatures must be \"" ++
      toString (Ecdsa.signatureSize (Algorithm.curve d)) ++ "\" bytes, saw \"" ++ toString size ++
      "\""
  | invalid => "invalid signature"

/-- Checks that a signature is one of a message under an algorithm with a key. -/
def Algorithm.check (algorithm : Algorithm) (key : PublicKey) (message signature : List UInt8) :
    Except SignatureError Unit :=
  match algorithm, key with
  | .rsa d, .rsa key => if key.verifies d message signature then .ok () else .error .invalid
  | .ecdsa _, .rsa _ => .error .otherThanRsa
  | .rsa _, .ecdsa _ => .error .otherThanEcdsa
  | .ecdsa d, .ecdsa key =>
    if key.curve ≠ curve d then .error (.otherCurve d)
    else if signature.length ≠ Ecdsa.signatureSize key.curve then
      .error (.wrongSize d signature.length)
    else if key.verifies d message signature then .ok ()
    else .error .invalid

end OAuthClient
