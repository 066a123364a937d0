import OAuthClient.Proofs.Setup.Steps

/-!
# When client support activates

Three parts of the library look at the same configuration: the condition sees only what is bound,
the resolver sees it completed by templates, and the setup binds it once for each of them. They
never disagree: they fail alike, and otherwise the condition holds just if the resolver and the
setup have a repository, whose ids are those that the condition reports.

## Main statements

* `Setup.Agreement`: what the three make of bound registrations.
* `Setup.activation_agrees`: that they agree on every configuration.
-/

namespace OAuthClient

namespace Resolution

/-- If configured, a map of properties is resolved just if the condition holds for it. -/
theorem ifConfigured_fst (catalog : Catalog) (registrations : Entries RegistrationProperties)
    (logger : Logger) : (ifConfigured catalog registrations logger).1 =
      if (Condition.outcome registrations).isMatch then
        some (all catalog registrations logger).1 else none := by
  unfold ifConfigured Condition.outcome Condition.Outcome.isMatch
  cases (configuredIds registrations).isEmpty <;> rfl

end Resolution

namespace Setup

/-- What the condition, the resolver and the setup make of bound registrations. -/
structure Agreement (env : Environment) (registry : ComponentRegistry) (source : PropertySource)
    (options : Options) (bound : Entries RegistrationProperties) (outcome : Condition.Outcome)
    (repository : Repository) : Prop where
  evaluated : Condition.evaluate env source options.path = .ok outcome
  /-- Resolving never fails: no id comes up twice. -/
  resolved : ∀ logger, (Resolution.all options.catalog bound logger).1 = .ok repository
  ids : outcome.registrationIds = repository.ids
  isMatch_iff : outcome.isMatch = true ↔ repository.ids ≠ []
  ifConfigured : ∀ logger, (Resolution.ifConfigured options.catalog bound logger).1 =
    if outcome.isMatch then some (.ok repository) else none
  /-- Nothing is registered just if the condition does not hold. -/
  absent_iff :
    (registerRepository env registry source options).result = .ok none ↔ outcome.isMatch = false
  untouched : outcome.isMatch = false →
    (registerRepository env registry source options).registry = registry
  /-- Otherwise the repository is registered, and nothing else is. -/
  registered : outcome.isMatch = true → ∃ component : Component,
    (registerRepository env registry source options).result = .ok (some component) ∧
      component.repository? = some repository ∧
      (registerRepository env registry source options).registry.components =
        registry.components ++ [(repositoryName, component)]

/-- That the three agree on a configuration: they fail with the same issues, or there is a
repository that all of them mean. -/
def Agrees (env : Environment) (registry : ComponentRegistry) (source : PropertySource)
    (options : Options) : Prop :=
  match Binding.registrations env source options.path with
  | .error issues =>
    Condition.evaluate env source options.path = .error issues ∧
      (registerRepository env registry source options).result = .error (.binding issues) ∧
      (registerRepository env registry source options).registry = registry
  | .ok bound => ∃ outcome repository,
      Agreement env registry source options bound outcome repository

/-- The ids that a repository resolved from some properties has are those that the condition
reports. -/
theorem ids_of_all {catalog : Catalog} {bound : Entries RegistrationProperties} {logger : Logger}
    {repository : Repository} (distinct : bound.keys.Nodup)
    (hall : (Resolution.all catalog bound logger).1 = .ok repository) :
    repository.ids = configuredIds bound := by
  obtain ⟨other, hok, hregistrations⟩ := Resolution.all_eq_ok distinct catalog logger
  obtain rfl : other = repository := Except.ok.inj (hok.symm.trans hall)
  show other.registrations.map _ = configuredIds bound
  rw [hregistrations, Resolution.ids_resolved]

section

variable {env : Environment} {registry : ComponentRegistry} {source : PropertySource}
  {options : Options} {bound : Entries RegistrationProperties}

/-- Registrations that are bound are agreed upon. -/
theorem agreement_of_bound (free : registry.get? repositoryName = none)
    (hbound : Binding.registrations env source options.path = .ok bound) :
    ∃ repository,
      Agreement env registry source options bound (Condition.outcome bound) repository := by
  have distinct := Binding.nodup_keys_registrations hbound
  obtain ⟨repository, hall, -⟩ := Resolution.all_eq_ok distinct options.catalog options.logger
  have hevaluated : Condition.evaluate env source options.path =
      .ok (Condition.outcome bound) := by
    rw [Condition.evaluate_eq, hbound]
    rfl
  have hresolved (logger : Logger) :
      (Resolution.all options.catalog bound logger).1 = .ok repository :=
    (Resolution.all_fst_logger ..).trans hall
  have hids : (Condition.outcome bound).registrationIds = repository.ids :=
    (ids_of_all distinct hall).symm
  have hmatch : (Condition.outcome bound).isMatch = true ↔ repository.ids ≠ [] := by
    rw [Condition.isMatch_iff, hids]
  have hconfigured (logger : Logger) :
      (Resolution.ifConfigured options.catalog bound logger).1 =
        if (Condition.outcome bound).isMatch then some (.ok repository) else none := by
    rw [Resolution.ifConfigured_fst, hresolved]
  refine ⟨repository, ?_⟩
  have hstep := repositoryStep env registry source options
  rcases hstep.of_bound free hbound with
    ⟨hnone, hregistry, hresult⟩ | ⟨hsome, other, hother, hregistry, hresult⟩
  · have hfalse : (Condition.outcome bound).isMatch = false :=
      Bool.eq_false_iff.mpr fun h => Condition.isMatch_iff.mp h hnone
    refine ⟨hevaluated, hresolved, hids, hmatch, hconfigured, ?_, fun _ => hregistry, ?_⟩
    · rw [hresult, hfalse]
      simp
    · rw [hfalse]
      intro h
      cases h
  · obtain rfl := Except.ok.inj (hall.symm.trans hother)
    have htrue : (Condition.outcome bound).isMatch = true := Condition.isMatch_iff.mpr hsome
    refine ⟨hevaluated, hresolved, hids, hmatch, hconfigured, ?_, ?_, fun _ => ?_⟩
    · rw [hresult, htrue]
      simp
    · rw [htrue]
      intro h
      cases h
    · rw [hregistry]
      exact ⟨_, hresult, rfl, ComponentRegistry.components_add free _⟩

end

/-- **The condition, the resolver and the setup agree** on every configuration, whatever templates
there are, as long as the application has put nothing under the repository's name. -/
theorem activation_agrees {registry : ComponentRegistry}
    (free : registry.get? repositoryName = none) (env : Environment) (source : PropertySource)
    (options : Options) : Agrees env registry source options := by
  unfold Agrees
  split
  · next issues hbound =>
    have hregister : registerRepository env registry source options =
        { registry, result := .error (.binding issues) } := by
      unfold registerRepository
      rw [free]
      exact addRepository_of_error hbound registry
    rw [hregister, Condition.evaluate_eq, hbound]
    exact ⟨rfl, rfl, rfl⟩
  · next bound hbound => exact ⟨_, agreement_of_bound free hbound⟩

/-- Ids that are numbers, one of which only a template has a client id for. -/
theorem activation_agrees_numbers :
    let source : PropertySource := ⟨[("clients", .map [("2", .map []),
      ("10", .map [("client-id", .text "a")]), ("b", .map [("clientId", .num (.ofNat 7))])])]⟩
    let options : Options :=
      { catalog := [("2", { clientId := some "c" })], path := "clients"
        signingKeys := .unreachable }
    ({} : ComponentRegistry).get? repositoryName = none ∧
      (Condition.evaluate ⟨[]⟩ source "clients").toOption = some ⟨["10", "b"]⟩ ∧
      Agrees ⟨[]⟩ {} source options :=
  ⟨rfl, by decide +kernel, activation_agrees rfl _ _ _⟩

end Setup

end OAuthClient
