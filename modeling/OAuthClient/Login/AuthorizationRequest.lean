import OAuthClient.Login.RedirectUri
import OAuthClient.Repository
import OAuthClient.Text.Form

/-!
# Authorization requests

The request that sends a user to the provider is a URL: the provider's authorization endpoint with
the parameters of the request as a form-encoded query.

## Main declarations

* `AuthorizationRequest`: a request; `AuthorizationRequest.url` is its URL.
* `AuthorizationError`: why a registration has no requests.
* `Repository.authorizationRequest`: the request for a registration.
-/

namespace OAuthClient

/-- A request for an authorization code. -/
structure AuthorizationRequest where
  authorizationUri : String
  clientId : String
  redirectUri : String
  scope : ScopeSet
  state : String
  deriving DecidableEq, Repr

namespace AuthorizationRequest

/-- The parameters of a request, in order. -/
def parameters (r : AuthorizationRequest) : List (String × String) :=
  [("client_id", r.clientId),
   ("redirect_uri", r.redirectUri),
   ("response_type", "code"),
   ("scope", " ".intercalate r.scope.items),
   ("state", r.state)]

/-- The URL of a request. -/
def url (r : AuthorizationRequest) : String :=
  r.authorizationUri ++ "?" ++ String.ofList (Form.encode r.parameters)

end AuthorizationRequest

/-- Why there is no request for a registration. -/
inductive AuthorizationError where
  | unknownRegistration (registrationId : String)
  | otherGrant (registrationId : String)
  | noAuthorizationUri (registrationId : String)
  | noRedirectUri (cause : NoRedirectUri)
  deriving DecidableEq, Repr

/-- The report of an unknown registration. -/
def unknownRegistrationMessage (registrationId : String) : String :=
  s!"Unknown client registration '{registrationId}'"

/-- The report of an error. -/
def AuthorizationError.message : AuthorizationError → String
  | unknownRegistration id => unknownRegistrationMessage id
  | otherGrant id => s!"Client registration '{id}' does not use the authorization code grant"
  | noAuthorizationUri id => s!"Client registration '{id}' has no authorization URI"
  | noRedirectUri cause => cause.message

/-- The request for a registration. An empty authorization URI counts as missing. -/
def Repository.authorizationRequest (repository : Repository) (id state : String)
    (context : RedirectContext) : Except AuthorizationError AuthorizationRequest :=
  match repository.find? id with
  | none => .error (.unknownRegistration id)
  | some registration =>
    if registration.authorizationGrantType ≠ some .authorizationCode then .error (.otherGrant id)
    else match registration.providerDetails.authorizationUri with
      | none | some "" => .error (.noAuthorizationUri id)
      | some authorizationUri => do
        let redirectUri ← (context.expand registration).mapError .noRedirectUri
        return {
          authorizationUri, redirectUri, state
          clientId := registration.clientId
          scope := registration.scope }

end OAuthClient
