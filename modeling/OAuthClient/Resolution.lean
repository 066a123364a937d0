import OAuthClient.Log
import OAuthClient.Registration.Properties
import OAuthClient.Repository
import OAuthClient.Template

/-!
# Resolving registrations

Configured registrations take defaults from templates of a catalog and become registrations that are
ready for their providers. Those without a client id are left out.

## Main declarations

* `RegistrationProperties.withDefaults`: the properties, completed by a template.
* `Resolution.effective`: the properties of a registration completed by its template.
* `Resolution.registration`: the registration that completed properties describe.
* `Resolution.all`: all registrations that have a client id, with the log.
* `Resolution.ifConfigured`: the same, or nothing if no registration has a client id.
-/

namespace OAuthClient

/-- The properties, each attribute that is absent or empty taken from the template. Client id,
client secret and template id are never taken from it. -/
def RegistrationProperties.withDefaults (p : RegistrationProperties) (template : Template) :
    RegistrationProperties :=
  { p with toAttributes := p.toAttributes.withDefaults template.toAttributes }

namespace Resolution

/-- The authentication methods that a configuration can name. -/
def authenticationMethods : List (String × AuthenticationMethod) :=
  [("basic", .clientSecretBasic), ("post", .clientSecretPost)]

/-- The grant types that a configuration can name. -/
def grantTypes : List (String × GrantType) := [("authorization_code", .authorizationCode)]

/-- Looks up a configured choice. An absent or empty one is none; so is an unknown one, with a
warning. -/
def choose {α : Type} (choices : List (String × α)) (value : Option String)
    (what registrationId : String) (logger : Logger) : Option α × List LogLine :=
  match value with
  | none | some "" => (none, [])
  | some name =>
    match choices.lookup name with
    | some choice => (some choice, [])
    | none => (none, logger.write
        { level := .warn
          text := s!"Client registration '{registrationId}' has unsupported {what} '{name}'" })

/-- The properties of a registration completed by its template: the one that it names, or without
such a name the one named like the registration. -/
def effective (catalog : Catalog) (id : String) (p : RegistrationProperties) :
    RegistrationProperties :=
  match catalog.find? (p.templateId.getD id) with
  | some template => p.withDefaults template
  | none => p

/-- The registration that completed properties describe. -/
def registration (id clientId : String) (p : RegistrationProperties) (logger : Logger) :
    Registration × List LogLine :=
  let (method, methodLog) := choose authenticationMethods p.clientAuthenticationMethod
    "client authentication method" id logger
  let (grant, grantLog) := choose grantTypes p.authorizationGrantType
    "authorization grant type" id logger
  ({ registrationId := id
     clientId
     clientSecret := p.clientSecret
     clientAuthenticationMethod := method
     authorizationGrantType := grant
     redirectUri := p.redirectUri
     scope := .ofList (p.scope.getD [])
     providerDetails :=
       { authorizationUri := p.authorizationUri
         tokenUri := p.tokenUri
         userInfoUri := p.userInfoUri
         jwkSetUri := p.jwkSetUri }
     clientName := p.clientName }, methodLog ++ grantLog)

/-- Resolves one registration; without a client id there is none. -/
def one (catalog : Catalog) (id : String) (p : RegistrationProperties) (logger : Logger) :
    Option Registration × List LogLine :=
  let completed := effective catalog id p
  match completed.clientId with
  | none | some "" => (none, logger.write
      { level := .debug, text := s!"Client registration '{id}' has no client-id, skipping" })
  | some clientId =>
    let (r, log) := registration id clientId completed logger
    (some r, log)

/-- Resolves all registrations, with the log. -/
def all (catalog : Catalog) (registrations : Entries RegistrationProperties) (logger : Logger) :
    Except Repository.DuplicateId Repository × List LogLine :=
  let outcomes := registrations.map fun e => one catalog e.1 e.2 logger
  (Repository.ofList (outcomes.filterMap (·.1)), outcomes.flatMap (·.2))

/-- Resolves all registrations if one of them has a client id. -/
def ifConfigured (catalog : Catalog) (registrations : Entries RegistrationProperties)
    (logger : Logger) : Option (Except Repository.DuplicateId Repository) × List LogLine :=
  if (configuredIds registrations).isEmpty then (none, [])
  else
    let (repository, log) := all catalog registrations logger
    (some repository, log)

end Resolution

end OAuthClient
