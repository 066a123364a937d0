import OAuthClient.Binding
import OAuthClient.Condition

/-!
# Bound registrations

Registrations are bound one after the other into a map, so that no id is bound twice, and the
condition is what binding them gives.

## Main statements

* `Binding.nodup_keys_registrations`: no id is bound twice.
* `Condition.evaluate_eq`: the condition fails with the binding, and is its outcome otherwise.
-/

namespace OAuthClient

namespace Binding

/-- Adding a registration to those that are bound keeps their ids distinct. -/
theorem nodup_keys_bindEntry {env : Environment} {bound after : Entries RegistrationProperties}
    {e : String × Value} (hbound : bound.keys.Nodup) (h : bindEntry env bound e = .ok after) :
    after.keys.Nodup := by
  unfold bindEntry at h
  cases hread : registration env e.2 with
  | error issues =>
    rw [hread] at h
    cases h
  | ok p =>
    rw [hread] at h
    cases h
    exact Entries.nodup_keys_set hbound e.1 p

/-- Distinct ids stay distinct however many registrations are added. -/
theorem nodup_keys_foldlM {env : Environment} {es : Entries Value}
    {bound after : Entries RegistrationProperties} (hbound : bound.keys.Nodup)
    (h : es.foldlM (bindEntry env) bound = .ok after) : after.keys.Nodup := by
  induction es generalizing bound with
  | nil =>
    cases h
    exact hbound
  | cons e es ih =>
    rw [List.foldlM_cons] at h
    cases hstep : bindEntry env bound e with
    | error issues =>
      rw [hstep] at h
      cases h
    | ok next =>
      rw [hstep] at h
      exact ih (nodup_keys_bindEntry hbound hstep) h

/-- No id is bound twice. -/
theorem nodup_keys_registrations {env : Environment} {source : PropertySource} {path : String}
    {bound : Entries RegistrationProperties} (h : registrations env source path = .ok bound) :
    bound.keys.Nodup := by
  unfold registrations at h
  cases hmap : mapBelow source path with
  | error issues =>
    rw [hmap] at h
    cases h
  | ok es =>
    rw [hmap] at h
    exact nodup_keys_foldlM (show (Entries.keys []).Nodup from List.nodup_nil) h

end Binding

namespace Condition

/-- The condition fails with the binding, and is the outcome for what is bound otherwise. -/
theorem evaluate_eq (env : Environment) (source : PropertySource) (path : String) :
    evaluate env source path = (Binding.registrations env source path).map outcome :=
  rfl

/-- The condition holds just if it has an id to report. -/
theorem isMatch_iff {outcome : Outcome} :
    outcome.isMatch = true ↔ outcome.registrationIds ≠ [] := by
  unfold Outcome.isMatch
  simp

end Condition

end OAuthClient
