import OAuthClient.Proofs.Binding
import OAuthClient.Proofs.Resolution
import OAuthClient.Setup

/-!
# The steps of the setup

Each step of the setup ends in one of a few ways: it keeps a component that the application
supplied, refuses one of the wrong kind, finds nothing to do, or makes a component of its own. The
relations here list these ways together with when each is taken and what it leaves behind.

## Main statements

* `ComponentRegistry.add`: a registry with a new component under a name.
* `Setup.RepositoryStep`, `Setup.repositoryStep`: how registering the repository ends.
* `Setup.LoginStep`, `Setup.loginStep`: how registering the login ends.
* `Setup.ConfigureStep`, `Setup.configureStep`: how setting up both ends.
-/

namespace OAuthClient

namespace ComponentRegistry

/-- The registry with a new component under a name. -/
def add (registry : ComponentRegistry) (name : String) (content : Component.Content) :
    ComponentRegistry :=
  { components := place name ⟨registry.next, content⟩ registry.components
    next := registry.next + 1 }

theorem get?_add (registry : ComponentRegistry) (name other : String)
    (content : Component.Content) : (registry.add name content).get? other =
      if other = name then some ⟨registry.next, content⟩ else registry.get? other :=
  lookup_place ..

/-- A component under a name that is free goes to the end. -/
theorem place_of_lookup_eq_none {components : List (String × Component)} {name : String}
    (free : components.lookup name = none) (component : Component) :
    place name component components = components ++ [(name, component)] := by
  induction components with
  | nil => rfl
  | cons c cs ih =>
    obtain ⟨other, old⟩ := c
    rw [List.lookup_cons] at free
    by_cases h : other = name
    · subst h
      simp at free
    · have hne : (name == other) = false := by simpa using Ne.symm h
      rw [hne] at free
      rw [place, if_neg h, ih free]
      rfl

theorem components_add {registry : ComponentRegistry} {name : String}
    (free : registry.get? name = none) (content : Component.Content) :
    (registry.add name content).components =
      registry.components ++ [(name, ⟨registry.next, content⟩)] :=
  place_of_lookup_eq_none free _

end ComponentRegistry

namespace Setup

/-! ### The repository -/

/-- How registering the repository ends: the registry after it, and the result. -/
inductive RepositoryStep (env : Environment) (registry : ComponentRegistry)
    (source : PropertySource) (options : Options) :
    ComponentRegistry → Except Error (Option Component) → Prop
  /-- The application has a repository. -/
  | kept {component : Component} {repository : Repository} :
      registry.get? repositoryName = some component →
      component.repository? = some repository →
      RepositoryStep env registry source options registry (.ok (some component))
  /-- The application has something else under the name. -/
  | refused {component : Component} :
      registry.get? repositoryName = some component →
      component.repository? = none →
      RepositoryStep env registry source options registry (.error .noRepository)
  /-- The configuration cannot be bound. -/
  | unbound {issues : List Issue} :
      registry.get? repositoryName = none →
      Binding.registrations env source options.path = .error issues →
      RepositoryStep env registry source options registry (.error (.binding issues))
  /-- No registration of the configuration has a client id. -/
  | absent {bound : Entries RegistrationProperties} :
      registry.get? repositoryName = none →
      Binding.registrations env source options.path = .ok bound →
      configuredIds bound = [] →
      RepositoryStep env registry source options registry (.ok none)
  /-- A repository is made from the configuration. -/
  | made {bound : Entries RegistrationProperties} {repository : Repository} :
      registry.get? repositoryName = none →
      Binding.registrations env source options.path = .ok bound →
      configuredIds bound ≠ [] →
      (Resolution.all options.catalog bound options.logger).1 = .ok repository →
      RepositoryStep env registry source options
        (registry.add repositoryName (.repository repository))
        (.ok (some ⟨registry.next, .repository repository⟩))

section

variable {env : Environment} {source : PropertySource} {options : Options}

theorem addRepository_of_error {issues : List Issue}
    (h : Binding.registrations env source options.path = .error issues)
    (registry : ComponentRegistry) :
    addRepository env registry source options =
      { registry, result := .error (.binding issues) } := by
  unfold addRepository
  rw [Condition.evaluate_eq, h]
  rfl

/-- Without a client id nothing is made. -/
theorem addRepository_of_unconfigured {bound : Entries RegistrationProperties}
    (h : Binding.registrations env source options.path = .ok bound)
    (hids : configuredIds bound = []) (registry : ComponentRegistry) :
    (addRepository env registry source options).registry = registry ∧
      (addRepository env registry source options).result = .ok none := by
  have hmatch : (Condition.outcome bound).isMatch = false := by
    unfold Condition.outcome Condition.Outcome.isMatch
    rw [hids]
    rfl
  unfold addRepository
  rw [Condition.evaluate_eq, h]
  simp [Except.map, hmatch]

/-- With a client id the second binding succeeds like the first, and the repository is made. -/
theorem addRepository_of_configured {bound : Entries RegistrationProperties}
    {repository : Repository} (h : Binding.registrations env source options.path = .ok bound)
    (hids : configuredIds bound ≠ [])
    (hall : (Resolution.all options.catalog bound options.logger).1 = .ok repository)
    (registry : ComponentRegistry) :
    (addRepository env registry source options).registry =
        registry.add repositoryName (.repository repository) ∧
      (addRepository env registry source options).result =
        .ok (some ⟨registry.next, .repository repository⟩) := by
  have hmatch : (Condition.outcome bound).isMatch = true := Condition.isMatch_iff.mpr hids
  unfold addRepository
  rw [Condition.evaluate_eq, h]
  simp only [Except.map, hmatch, hall]
  exact ⟨rfl, rfl⟩

end

/-- Registering the repository ends in one of the ways listed. -/
theorem repositoryStep (env : Environment) (registry : ComponentRegistry)
    (source : PropertySource) (options : Options) :
    RepositoryStep env registry source options
      (registerRepository env registry source options).registry
      (registerRepository env registry source options).result := by
  unfold registerRepository
  cases hname : registry.get? repositoryName with
  | some component =>
    cases hrepository : component.repository? with
    | none => simpa [hrepository] using .refused hname hrepository
    | some repository => simpa [hrepository] using .kept hname hrepository
  | none =>
    cases hbound : Binding.registrations env source options.path with
    | error issues =>
      rw [addRepository_of_error hbound]
      exact .unbound hname hbound
    | ok bound =>
      by_cases hids : configuredIds bound = []
      · obtain ⟨hregistry, hresult⟩ := addRepository_of_unconfigured hbound hids registry
        simp only [hregistry, hresult]
        exact .absent hname hbound hids
      · -- No id is bound twice, so there is a repository.
        obtain ⟨repository, hall, -⟩ := Resolution.all_eq_ok
          (Binding.nodup_keys_registrations hbound) options.catalog options.logger
        obtain ⟨hregistry, hresult⟩ := addRepository_of_configured hbound hids hall registry
        simp only [hregistry, hresult]
        exact .made hname hbound hids hall

/-- Under a free name, what is bound decides how the step ends. -/
theorem RepositoryStep.of_bound {env : Environment} {registry after : ComponentRegistry}
    {source : PropertySource} {options : Options} {result : Except Error (Option Component)}
    {bound : Entries RegistrationProperties}
    (h : RepositoryStep env registry source options after result)
    (free : registry.get? repositoryName = none)
    (hbound : Binding.registrations env source options.path = .ok bound) :
    (configuredIds bound = [] ∧ after = registry ∧ result = .ok none) ∨
      (configuredIds bound ≠ [] ∧ ∃ repository,
        (Resolution.all options.catalog bound options.logger).1 = .ok repository ∧
        after = registry.add repositoryName (.repository repository) ∧
        result = .ok (some ⟨registry.next, .repository repository⟩)) := by
  cases h with
  | kept hname _ =>
    rw [free] at hname
    cases hname
  | refused hname _ =>
    rw [free] at hname
    cases hname
  | unbound _ hbound' =>
    rw [hbound] at hbound'
    cases hbound'
  | absent _ hbound' hids =>
    obtain rfl := Except.ok.inj (hbound.symm.trans hbound')
    exact .inl ⟨hids, rfl, rfl⟩
  | made _ hbound' hids hall =>
    obtain rfl := Except.ok.inj (hbound.symm.trans hbound')
    exact .inr ⟨hids, _, hall, rfl, rfl⟩

/-- The login's name is not touched by the repository. -/
theorem get?_loginName_add (registry : ComponentRegistry) (repository : Repository) :
    (registry.add repositoryName (.repository repository)).get? loginName =
      registry.get? loginName := by
  rw [ComponentRegistry.get?_add]
  exact if_neg (by decide)

/-! ### The login -/

/-- The login that is made over a repository. -/
def newLogin (options : Options) (repository : Repository) : Login :=
  { registrations := repository
    logger := options.logger
    signingKeys := options.signingKeys }

/-- How registering the login ends: the registry after it, and the result. -/
inductive LoginStep (registry : ComponentRegistry) (options : Options) :
    ComponentRegistry → Except Error (Option Component) → Prop
  /-- The application has a login. -/
  | kept {component : Component} {login : Login × Nat} :
      registry.get? loginName = some component →
      component.login? = some login →
      LoginStep registry options registry (.ok (some component))
  /-- The application has something else under the name. -/
  | refused {component : Component} :
      registry.get? loginName = some component →
      component.login? = none →
      LoginStep registry options registry (.error .noLogin)
  /-- There is no repository to make a login over. -/
  | absent :
      registry.get? loginName = none →
      (∀ component, registry.get? repositoryName = some component →
        component.repository? = none) →
      LoginStep registry options registry (.ok none)
  /-- A login is made over the repository. -/
  | made {component : Component} {repository : Repository} :
      registry.get? loginName = none →
      registry.get? repositoryName = some component →
      component.repository? = some repository →
      LoginStep registry options
        (registry.add loginName (.login (newLogin options repository) component.identity))
        (.ok (some ⟨registry.next, .login (newLogin options repository) component.identity⟩))

/-- Registering the login ends in one of the ways listed. -/
theorem loginStep (registry : ComponentRegistry) (options : Options) :
    LoginStep registry options (registerLogin registry options).registry
      (registerLogin registry options).result := by
  unfold registerLogin
  cases hlogin : registry.get? loginName with
  | some component =>
    cases hown : component.login? with
    | none => simpa [hown] using .refused hlogin hown
    | some login => simpa [hown] using .kept hlogin hown
  | none =>
    cases hname : registry.get? repositoryName with
    | none => exact .absent hlogin (by simp [hname])
    | some component =>
      cases hrepository : component.repository? with
      | none =>
        simp only [Option.bind_some, hrepository, Option.map_none]
        exact .absent hlogin (by simp [hname, hrepository])
      | some repository =>
        simp only [Option.bind_some, hrepository, Option.map_some]
        exact .made hlogin hname hrepository

/-- A component that is no login is refused. -/
theorem LoginStep.of_occupied {registry after : ComponentRegistry} {options : Options}
    {result : Except Error (Option Component)} {component : Component}
    (h : LoginStep registry options after result)
    (hname : registry.get? loginName = some component) (hnone : component.login? = none) :
    after = registry ∧ result = .error .noLogin := by
  cases h with
  | kept hname' hlogin =>
    obtain rfl := Option.some.inj (hname.symm.trans hname')
    rw [hnone] at hlogin
    cases hlogin
  | refused _ _ => exact ⟨rfl, rfl⟩
  | absent hname' _ =>
    rw [hname] at hname'
    cases hname'
  | made hname' _ _ =>
    rw [hname] at hname'
    cases hname'

/-! ### Both -/

/-- How setting up both ends: with the first of them unless that gives a repository, and then with
the second in the registry that the first leaves behind. -/
inductive ConfigureStep (env : Environment) (registry : ComponentRegistry)
    (source : PropertySource) (options : Options) :
    ComponentRegistry → Except Error Components → Prop
  | failed {after : ComponentRegistry} {e : Error} :
      RepositoryStep env registry source options after (.error e) →
      ConfigureStep env registry source options after (.error e)
  | absent {after : ComponentRegistry} :
      RepositoryStep env registry source options after (.ok none) →
      ConfigureStep env registry source options after (.ok {})
  | continued {between after : ComponentRegistry} {repository : Component}
      {result : Except Error (Option Component)} :
      RepositoryStep env registry source options between (.ok (some repository)) →
      LoginStep between options after result →
      ConfigureStep env registry source options after
        (result.map fun login => { repository := some repository, login })

/-- Setting up both ends in one of the ways listed. -/
theorem configureStep (env : Environment) (registry : ComponentRegistry)
    (source : PropertySource) (options : Options) :
    ConfigureStep env registry source options (configure env registry source options).registry
      (configure env registry source options).result := by
  have hfirst := repositoryStep env registry source options
  unfold configure
  generalize registerRepository env registry source options = first at hfirst ⊢
  cases hresult : first.result with
  | error e =>
    simp only [hresult] at hfirst ⊢
    exact .failed hfirst
  | ok found =>
    cases found with
    | none =>
      simp only [hresult] at hfirst ⊢
      exact .absent hfirst
    | some repository =>
      simp only [hresult] at hfirst ⊢
      exact .continued hfirst (loginStep first.registry options)

end Setup

end OAuthClient
