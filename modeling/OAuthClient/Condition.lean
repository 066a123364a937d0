import OAuthClient.Binding

/-!
# The condition for client support

Client support activates if some configured registration has a client id. Templates never supply
one, so the configuration alone decides.

## Main declarations

* `Condition.Outcome`: the registrations that have a client id, and the report on them.
* `Condition.outcome`, `Condition.evaluate`: the outcome for registrations and for those that a
  property source holds.
-/

namespace OAuthClient

namespace Condition

/-- The name of the condition in reports. -/
def name : String := "OAuth2 Clients Configured Condition"

/-- The outcome: the ids of the registrations that have a client id, in key order. -/
structure Outcome where
  registrationIds : List String
  deriving DecidableEq, Repr

/-- Whether the condition holds. -/
def Outcome.isMatch (outcome : Outcome) : Bool := !outcome.registrationIds.isEmpty

/-- The report on the outcome. -/
def Outcome.message (outcome : Outcome) : String :=
  let ids := ", ".intercalate outcome.registrationIds
  if outcome.isMatch then s!"{name} found OAuth2 Client(s) -> {ids}"
  else s!"{name} did not find OAuth2 Client(s)"

/-- The outcome for some registrations. -/
def outcome (registrations : Entries RegistrationProperties) : Outcome :=
  ⟨configuredIds registrations⟩

/-- Evaluates the condition on the registrations below a prefix. -/
def evaluate (env : Environment) (source : PropertySource)
    (path : String := Binding.defaultPrefix) : Checked Outcome :=
  (Binding.registrations env source path).map outcome

end Condition

end OAuthClient
