import OAuthClient.Proofs.Setup.Steps

/-!
# What a failed setup leaves behind

Each step of the setup checks everything before it touches the registry, so that one that fails has
changed nothing. The two steps together are not undone as one: the second may refuse what the
application put under the login's name when the first has already registered its repository. This
is the only case, and the repository is all that stays.

## Main statements

* `Setup.Stranded`: when the second step fails behind the first.
* `Setup.configure_not_atomic`: a configuration for which this happens.
* `Setup.failure_changes_nothing`: in all other cases a failure changes nothing.
-/

namespace OAuthClient

namespace Setup

/-- The repository's name is left to a configuration that has a client, and what the application
put under the login's name is no login. -/
structure Stranded (env : Environment) (registry : ComponentRegistry) (source : PropertySource)
    (options : Options) : Prop where
  free : registry.get? repositoryName = none
  occupied : ∃ component, registry.get? loginName = some component ∧ component.login? = none
  configured : ∃ bound, Binding.registrations env source options.path = .ok bound ∧
    configuredIds bound ≠ []

/-- A failure to register the repository changes nothing. -/
theorem RepositoryStep.unchanged {env : Environment} {registry after : ComponentRegistry}
    {source : PropertySource} {options : Options} {e : Error}
    (h : RepositoryStep env registry source options after (.error e)) : after = registry := by
  cases h <;> rfl

/-- A failure to register the login changes nothing, and is about a component that is no login. -/
theorem LoginStep.unchanged {registry after : ComponentRegistry} {options : Options} {e : Error}
    (h : LoginStep registry options after (.error e)) :
    after = registry ∧ ∃ component, registry.get? loginName = some component ∧
      component.login? = none := by
  cases h with
  | refused hname hlogin => exact ⟨rfl, _, hname, hlogin⟩

/-- A failure to set up both changes nothing, or it strands the repository. -/
theorem ConfigureStep.unchanged {env : Environment} {registry after : ComponentRegistry}
    {source : PropertySource} {options : Options} {e : Error}
    (h : ConfigureStep env registry source options after (.error e))
    (hnot : ¬ Stranded env registry source options) : after = registry := by
  generalize hresult : Except.error e = result at h
  cases h with
  | failed hfirst => exact hfirst.unchanged
  | absent hfirst => cases hresult
  | @continued between _ component second hfirst hsecond =>
    cases second with
    | ok login => cases hresult
    | error e' =>
      obtain ⟨rfl, hoccupied⟩ := hsecond.unchanged
      cases hfirst with
      | kept hname hrepository => rfl
      | made free hbound hids hall =>
        -- The repository is there already: this is the case that was excluded.
        rw [get?_loginName_add] at hoccupied
        exact absurd ⟨free, hoccupied, _, hbound, hids⟩ hnot

/-- If the second step fails behind the first, the repository stays. -/
theorem ConfigureStep.stranded {env : Environment} {registry after : ComponentRegistry}
    {source : PropertySource} {options : Options} {result : Except Error Components}
    (h : ConfigureStep env registry source options after result)
    (hstranded : Stranded env registry source options) :
    result = .error .noLogin ∧ ∃ bound repository,
      Binding.registrations env source options.path = .ok bound ∧
      (Resolution.all options.catalog bound options.logger).1 = .ok repository ∧
      after.components =
        registry.components ++ [(repositoryName, ⟨registry.next, .repository repository⟩)] := by
  obtain ⟨free, ⟨component, hname, hlogin⟩, bound, hbound, hids⟩ := hstranded
  cases h with
  | failed hfirst =>
    rcases hfirst.of_bound free hbound with ⟨-, -, hresult⟩ | ⟨-, _, -, -, hresult⟩
    · cases hresult
    · cases hresult
  | absent hfirst =>
    rcases hfirst.of_bound free hbound with ⟨hnone, -, -⟩ | ⟨-, _, -, -, hresult⟩
    · exact absurd hnone hids
    · cases hresult
  | continued hfirst hsecond =>
    rcases hfirst.of_bound free hbound with ⟨-, -, hresult⟩ | ⟨-, repository, hall, rfl, -⟩
    · cases hresult
    · rw [← get?_loginName_add registry repository] at hname
      obtain ⟨rfl, rfl⟩ := hsecond.of_occupied hname hlogin
      exact ⟨rfl, bound, repository, hbound, hall, ComponentRegistry.components_add free _⟩

/-- A configuration with a client, and a truth value under the login's name: setting up both fails,
and the registry is not what it was. -/
theorem configure_not_atomic :
    let registry := ({} : ComponentRegistry).add loginName (.value (.bool true))
    let source : PropertySource := ⟨[("r", .map [("google", .map [("client-id", .text "c")])])]⟩
    let after := configure ⟨[]⟩ registry source { path := "r", signingKeys := .unreachable }
    after.result = .error .noLogin ∧ after.registry.components ≠ registry.components := by
  refine ⟨rfl, fun h => ?_⟩
  have hlength := congrArg List.length h
  revert hlength
  decide +kernel

/-- **Failures are atomic but for one case**: a failing step of the setup leaves the registry as it
was, and so do both steps together, unless the second refuses the component under the login's name
when the first has registered a repository, which then is all that is new. -/
theorem failure_changes_nothing (env : Environment) (registry : ComponentRegistry)
    (source : PropertySource) (options : Options) :
    (∀ e, (registerRepository env registry source options).result = .error e →
      (registerRepository env registry source options).registry = registry) ∧
    (∀ e, (registerLogin registry options).result = .error e →
      (registerLogin registry options).registry = registry) ∧
    (¬ Stranded env registry source options →
      ∀ e, (configure env registry source options).result = .error e →
        (configure env registry source options).registry = registry) ∧
    (Stranded env registry source options →
      (configure env registry source options).result = .error .noLogin ∧
        ∃ bound repository, Binding.registrations env source options.path = .ok bound ∧
          (Resolution.all options.catalog bound options.logger).1 = .ok repository ∧
          (configure env registry source options).registry.components =
            registry.components ++
              [(repositoryName, ⟨registry.next, .repository repository⟩)]) := by
  refine ⟨fun e h => ?_, fun e h => ?_, fun hnot e h => ?_, fun hstranded => ?_⟩
  · have hstep := repositoryStep env registry source options
    rw [h] at hstep
    exact hstep.unchanged
  · have hstep := loginStep registry options
    rw [h] at hstep
    exact hstep.unchanged.1
  · have hstep := configureStep env registry source options
    rw [h] at hstep
    exact hstep.unchanged hnot
  · exact (configureStep env registry source options).stranded hstranded

end Setup

end OAuthClient
