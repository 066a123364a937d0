import OAuthClient.Signature
import OAuthClient.Value

/-!
# Signing keys

The keys that tokens are verified with come from a key source for a JWK set URI, and a key source
comes from the application. What these answer may depend on all requests made before.

## Main declarations

* `KeyRequest`: a request for a source or for a key.
* `KeySource`, `SigningKeys`: answer requests for keys and for sources.
* `SigningKeys.unreachable`: the sources of JWK set URIs that are no URLs.
-/

namespace OAuthClient

/-- A request for the source of a JWK set URI, or for a key of that source. -/
inductive KeyRequest where
  | source (uri : String)
  | key (uri : String) (keyId : Value)
  deriving DecidableEq, Repr

/-- What a source gives as a key: a public key, or a text that is none. -/
inductive KeyMaterial where
  | key (key : PublicKey)
  | text (text : String)
  deriving DecidableEq, Repr

/-- Answers a request for the key with an id, after the requests before it: the key, or the report
of an error. -/
abbrev KeySource := List KeyRequest → Value → Except String KeyMaterial

/-- Answers a request for the source of a JWK set URI, after the requests before it. -/
abbrev SigningKeys := List KeyRequest → String → Except String KeySource

namespace SigningKeys

/-- The number of requests to a JWK set that a source makes. -/
def requestLimit : Nat := 10

/-- The sources that are made where an application has none, for JWK set URIs that are no URLs. Every
request fails, the first ones for that reason and all others because they are too many. -/
def unreachable : SigningKeys := fun _ uri => .ok fun history _ =>
  let isOwn : KeyRequest → Bool
    | .key other _ => other = uri
    | .source _ => false
  .error <| if history.countP isOwn < requestLimit
    then "Invalid JWKS URI: The provided URI is not a valid URL."
    else "Too many requests to the JWKS endpoint"

end SigningKeys

end OAuthClient
