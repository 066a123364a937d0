import OAuthClient.Component
import OAuthClient.Condition
import OAuthClient.Resolution
import OAuthClient.Template.BuiltIn

/-!
# Setting up client support

Client support is two components, the repository of registrations and the login over it. What the
application put into the registry itself is kept; the rest is made from its configuration.

## Main declarations

* `Setup.Options`: what an application may choose.
* `Setup.Outcome`: the registry, the result and the log of a step.
* `Setup.registerRepository`, `Setup.registerLogin`: make the components that are missing.
* `Setup.configure`: both of them.
-/

namespace OAuthClient

namespace Setup

/-- The name of the component that is the repository. -/
def repositoryName : String := "clientRegistrationRepository"

/-- The name of the component that is the login. -/
def loginName : String := "oauth2Login"

/-- What an application may choose. -/
structure Options where
  catalog : Catalog := Catalog.builtIn
  /-- The path of the registrations among the properties. -/
  path : String := Binding.defaultPrefix
  logger : Logger := {}
  /-- The key sources of the application, or those that are made where it has none. -/
  signingKeys : SigningKeys

/-- Why a step fails. -/
inductive Error where
  /-- The component under the repository's name is no repository. -/
  | noRepository
  /-- The component under the login's name is no login. -/
  | noLogin
  /-- The configured registrations cannot be bound. -/
  | binding (issues : List Issue)
  | duplicateId (cause : Repository.DuplicateId)

/-- The report of an error; that on bindings is the list of its issues. -/
def Error.message : Error → String
  | noRepository => s!"Component '{repositoryName}' is not a client registration repository"
  | noLogin => s!"Component '{loginName}' is not an OAuth2 login configuration"
  | binding issues => "\n".intercalate (issues.map (·.message))
  | duplicateId cause => cause.message

/-- What comes of a step. -/
structure Outcome (α : Type) where
  registry : ComponentRegistry
  result : Except Error α
  log : List LogLine := []

/-- Makes a repository from the configuration if a registration there has a client id, and puts it
into the registry. The condition and the repository each bind the registrations for themselves. -/
def addRepository (env : Environment) (registry : ComponentRegistry) (source : PropertySource)
    (options : Options) : Outcome (Option Component) :=
  match Condition.evaluate env source options.path with
  | .error issues => { registry, result := .error (.binding issues) }
  | .ok condition =>
    let conditionLog := options.logger.write { level := .debug, text := condition.message }
    if !condition.isMatch then { registry, result := .ok none, log := conditionLog }
    else match Binding.registrations env source options.path with
      | .error issues => { registry, result := .error (.binding issues), log := conditionLog }
      | .ok registrations =>
        let (resolved, log) := Resolution.all options.catalog registrations options.logger
        match resolved with
        | .error cause =>
          { registry, result := .error (.duplicateId cause), log := conditionLog ++ log }
        | .ok repository =>
          let (component, registry) := registry.create (.repository repository)
          let ids := ", ".intercalate repository.ids
          { registry := registry.set repositoryName component
            result := .ok (some component)
            log := conditionLog ++ log ++ options.logger.write
              { level := .info, text := s!"OAuth2 client registrations ready: {ids}" } }

/-- Registers the repository: the one that the registry has, or else one made from the
configuration. Without registrations there is none. -/
def registerRepository (env : Environment) (registry : ComponentRegistry) (source : PropertySource)
    (options : Options) : Outcome (Option Component) :=
  match registry.get? repositoryName with
  | none => addRepository env registry source options
  | some component =>
    if component.repository?.isNone then { registry, result := .error .noRepository }
    else
      { registry, result := .ok (some component)
        log := options.logger.write
          { level := .debug, text := "Using application supplied client registration repository" } }

/-- Registers the login: the one that the registry has, or else one over the repository there.
Without a repository there is none. -/
def registerLogin (registry : ComponentRegistry) (options : Options) : Outcome (Option Component) :=
  match registry.get? loginName with
  | some component =>
    if component.login?.isNone then { registry, result := .error .noLogin }
    else
      { registry, result := .ok (some component)
        log := options.logger.write
          { level := .debug, text := "Using application supplied OAuth2 login configuration" } }
  | none =>
    match (registry.get? repositoryName).bind fun c => c.repository?.map (c.identity, ·) with
    | none => { registry, result := .ok none }
    | some (identity, repository) =>
      let login : Login :=
        { registrations := repository
          logger := options.logger
          signingKeys := options.signingKeys }
      let (component, registry) := registry.create (.login login identity)
      { registry := registry.set loginName component, result := .ok (some component) }

/-- The components of client support, as far as there are any. -/
structure Components where
  repository : Option Component := none
  login : Option Component := none

/-- Registers the repository and, if there is one, the login. -/
def configure (env : Environment) (registry : ComponentRegistry) (source : PropertySource)
    (options : Options) : Outcome Components :=
  let first := registerRepository env registry source options
  match first.result with
  | .error e => { registry := first.registry, result := .error e, log := first.log }
  | .ok none =>
    { registry := first.registry, result := .ok {}
      log := first.log ++ options.logger.write
        { level := .info, text := "No OAuth2 clients configured, client support disabled" } }
  | .ok (some repository) =>
    let second := registerLogin first.registry options
    { registry := second.registry
      result := second.result.map fun login => { repository := some repository, login }
      log := first.log ++ second.log }

end Setup

end OAuthClient
