import OAuthClient.Entries
import OAuthClient.Attributes

/-!
# Registration properties

What the configuration says about one client registration, before templates supply anything.

## Main declarations

* `RegistrationProperties`: the attributes together with client id, client secret and template id.
* `RegistrationProperties.hasClientId`: whether a client id is given that is not empty.
* `configuredIds`: the ids of the registrations that have one.
-/

namespace OAuthClient

/-- The properties of a registration as configured. -/
structure RegistrationProperties extends Attributes where
  clientId : Option String := none
  clientSecret : Option String := none
  /-- The template that supplies defaults; absent, it is the one named like the registration. -/
  templateId : Option String := none
  deriving DecidableEq, Repr, Inhabited

/-- Whether a client id is given that is not empty. -/
def RegistrationProperties.hasClientId (p : RegistrationProperties) : Bool :=
  !lacks String.isEmpty p.clientId

/-- The ids of the registrations that have a client id, in key order. -/
def configuredIds (registrations : Entries RegistrationProperties) : List String :=
  (registrations.filter (·.2.hasClientId)).map (·.1)

end OAuthClient
