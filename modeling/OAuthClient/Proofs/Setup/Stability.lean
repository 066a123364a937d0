import OAuthClient.Proofs.Setup.Steps

/-!
# What a registry keeps

The setup may be called again and again, each time with another configuration, and calls may fail.
No call replaces or removes a component; a call adds one only under a name of its own that is free,
and a login that it adds is over the repository in the registry. So once both components are there,
whoever made them, they are what every later call gives.

## Main statements

* `Setup.Call`, `Setup.run`: the calls of the setup, and the registry after some of them.
* `Setup.Grown`: what calls do to a registry at most; `Setup.grown_run` says so of every run.
* `Setup.Configured`: a registry has both components.
* `Setup.registration_stable`: what is in a registry wins over all later calls.
-/

namespace OAuthClient

/-- A component is a login over another one: the repository that it holds is that component. -/
def Component.IsLoginOver (component repository : Component) : Prop :=
  ∃ login, component.login? = some (login, repository.identity) ∧
    repository.repository? = some login.registrations

/-- The identities of a registry tell its components apart, and none of them is given out again. -/
structure ComponentRegistry.Identified (registry : ComponentRegistry) : Prop where
  identity_lt : ∀ {name component}, registry.get? name = some component →
    component.identity < registry.next
  /-- The repository of a login has an identity also if it is not in the registry. -/
  repositoryId_lt : ∀ {name component login id}, registry.get? name = some component →
    component.login? = some (login, id) → id < registry.next
  eq_of_identity_eq : ∀ {name other component another}, registry.get? name = some component →
    registry.get? other = some another → component.identity = another.identity →
    component = another

namespace ComponentRegistry

theorem get?_add_self (registry : ComponentRegistry) (name : String)
    (content : Component.Content) :
    (registry.add name content).get? name = some ⟨registry.next, content⟩ := by
  rw [get?_add, if_pos rfl]

theorem get?_add_of_ne (registry : ComponentRegistry) {name other : String} (h : other ≠ name)
    (content : Component.Content) :
    (registry.add name content).get? other = registry.get? other := by
  rw [get?_add, if_neg h]

/-- A component stays when another one is put under a free name. -/
theorem get?_add_of_get? {registry : ComponentRegistry} {name other : String}
    {component : Component} (free : registry.get? name = none)
    (h : registry.get? other = some component) (content : Component.Content) :
    (registry.add name content).get? other = some component := by
  have hne : other ≠ name := by
    rintro rfl
    cases free.symm.trans h
  rw [get?_add_of_ne registry hne, h]

/-- A new component has an identity of its own. -/
theorem Identified.add {registry : ComponentRegistry} {content : Component.Content}
    (h : registry.Identified) (name : String)
    (hlogin : ∀ {login id}, content = .login login id → id < registry.next) :
    (registry.add name content).Identified where
  identity_lt := by
    intro other component hget
    rw [get?_add] at hget
    show component.identity < registry.next + 1
    split at hget
    · cases hget
      exact Nat.lt_succ_self _
    · exact Nat.lt_succ_of_lt (h.identity_lt hget)
  repositoryId_lt := by
    intro other component login id hget hcomponent
    rw [get?_add] at hget
    show id < registry.next + 1
    split at hget
    · cases hget
      cases content with
      | login login' id' =>
        cases hcomponent
        exact Nat.lt_succ_of_lt (hlogin rfl)
      | repository _ => cases hcomponent
      | value _ => cases hcomponent
      | vacant => cases hcomponent
    · exact Nat.lt_succ_of_lt (h.repositoryId_lt hget hcomponent)
  eq_of_identity_eq := by
    intro other another component component' hget hget' hsame
    rw [get?_add] at hget hget'
    -- The new component is under one of the two names, under both or under neither. Its identity
    -- is one that no component in the registry has.
    split at hget <;> split at hget'
    · cases hget
      cases hget'
      rfl
    · cases hget
      exact absurd hsame.symm (Nat.ne_of_lt (h.identity_lt hget'))
    · cases hget'
      exact absurd hsame (Nat.ne_of_lt (h.identity_lt hget))
    · exact h.eq_of_identity_eq hget hget' hsame

end ComponentRegistry

namespace Setup

/-! ### Calls -/

/-- A call of the setup, with the configuration and the options that it is made with. -/
inductive Call where
  | registerRepository (env : Environment) (source : PropertySource) (options : Options)
  | registerLogin (options : Options)
  | configure (env : Environment) (source : PropertySource) (options : Options)

/-- The registry after a call, whether it fails or not. -/
def Call.perform (registry : ComponentRegistry) : Call → ComponentRegistry
  | registerRepository env source options =>
    (Setup.registerRepository env registry source options).registry
  | registerLogin options => (Setup.registerLogin registry options).registry
  | configure env source options => (Setup.configure env registry source options).registry

/-- The registry after some calls. -/
def run (registry : ComponentRegistry) (calls : List Call) : ComponentRegistry :=
  calls.foldl Call.perform registry

/-! ### Growth -/

/-- What calls do to a registry at most. -/
structure Grown (before after : ComponentRegistry) : Prop where
  /-- What is there stays, under the same name. -/
  kept : ∀ {name component}, before.get? name = some component →
    after.get? name = some component
  /-- Only the names of the setup are taken. -/
  names : ∀ {name component}, before.get? name = none → after.get? name = some component →
    name = repositoryName ∨ name = loginName
  /-- A repository that is made is one. -/
  repository : ∀ {component}, before.get? repositoryName = none →
    after.get? repositoryName = some component → component.repository? ≠ none
  /-- A login that is made is over the repository in the registry. -/
  login : ∀ {component}, before.get? loginName = none →
    after.get? loginName = some component →
    ∃ repository, after.get? repositoryName = some repository ∧
      component.IsLoginOver repository
  identified : before.Identified → after.Identified

theorem Grown.refl (registry : ComponentRegistry) : Grown registry registry where
  kept := id
  names := fun free h => by cases free.symm.trans h
  repository := fun free h => by cases free.symm.trans h
  login := fun free h => by cases free.symm.trans h
  identified := id

/-- Growth goes on: what was made first is kept by what follows. -/
theorem Grown.trans {before between after : ComponentRegistry} (h : Grown before between)
    (h' : Grown between after) : Grown before after where
  kept := fun hname => h'.kept (h.kept hname)
  names := by
    intro name component free hname
    -- A name is taken by the calls that come first or by those that follow.
    cases hbetween : between.get? name with
    | none => exact h'.names hbetween hname
    | some other => exact h.names free hbetween
  repository := by
    intro component free hname
    cases hbetween : between.get? repositoryName with
    | none => exact h'.repository hbetween hname
    | some other =>
      -- What was made first is still there, so it is `component`.
      obtain rfl := Option.some.inj ((h'.kept hbetween).symm.trans hname)
      exact h.repository free hbetween
  login := by
    intro component free hname
    cases hbetween : between.get? loginName with
    | none => exact h'.login hbetween hname
    | some other =>
      obtain rfl := Option.some.inj ((h'.kept hbetween).symm.trans hname)
      obtain ⟨repository, hrepository, hover⟩ := h.login free hbetween
      exact ⟨repository, h'.kept hrepository, hover⟩
  identified := fun hidentified => h'.identified (h.identified hidentified)

/-- A repository under its free name is growth. -/
theorem grown_add_repository {registry : ComponentRegistry}
    (free : registry.get? repositoryName = none) (repository : Repository) :
    Grown registry (registry.add repositoryName (.repository repository)) where
  kept := fun hname => ComponentRegistry.get?_add_of_get? free hname _
  names := by
    intro name component hfree hname
    by_cases h : name = repositoryName
    · exact .inl h
    · rw [ComponentRegistry.get?_add_of_ne registry h, hfree] at hname
      cases hname
  repository := by
    intro component _ hname
    rw [ComponentRegistry.get?_add_self] at hname
    cases hname
    exact Option.some_ne_none _
  login := by
    intro component hfree hname
    rw [get?_loginName_add, hfree] at hname
    cases hname
  identified := fun h => h.add _ fun hcontent => by cases hcontent

/-- A login over the repository, under its free name, is growth. -/
theorem grown_add_login {registry : ComponentRegistry} {component : Component}
    {repository : Repository} (free : registry.get? loginName = none)
    (hname : registry.get? repositoryName = some component)
    (hrepository : component.repository? = some repository) (options : Options) :
    Grown registry (registry.add loginName
      (.login (newLogin options repository) component.identity)) where
  kept := fun hother => ComponentRegistry.get?_add_of_get? free hother _
  names := by
    intro name other hfree hother
    by_cases h : name = loginName
    · exact .inr h
    · rw [ComponentRegistry.get?_add_of_ne registry h, hfree] at hother
      cases hother
  repository := by
    intro other hfree _
    cases hfree.symm.trans hname
  login := by
    intro other _ hother
    rw [ComponentRegistry.get?_add_self] at hother
    cases hother
    exact ⟨component, ComponentRegistry.get?_add_of_get? free hname _, _, rfl, hrepository⟩
  identified := fun h => h.add _ fun hcontent => by
    cases hcontent
    exact h.identity_lt hname

section

variable {env : Environment} {registry after : ComponentRegistry} {source : PropertySource}
  {options : Options} {component : Component} {components : Components}

theorem RepositoryStep.grown {result : Except Error (Option Component)}
    (h : RepositoryStep env registry source options after result) : Grown registry after := by
  cases h with
  | kept _ _ => exact .refl registry
  | refused _ _ => exact .refl registry
  | unbound _ _ => exact .refl registry
  | absent _ _ _ => exact .refl registry
  | made free _ _ _ => exact grown_add_repository free _

theorem LoginStep.grown {result : Except Error (Option Component)}
    (h : LoginStep registry options after result) : Grown registry after := by
  cases h with
  | kept _ _ => exact .refl registry
  | refused _ _ => exact .refl registry
  | absent _ _ => exact .refl registry
  | made free hname hrepository => exact grown_add_login free hname hrepository options

theorem ConfigureStep.grown {result : Except Error Components}
    (h : ConfigureStep env registry source options after result) : Grown registry after := by
  cases h with
  | failed hfirst => exact hfirst.grown
  | absent hfirst => exact hfirst.grown
  | continued hfirst hsecond => exact hfirst.grown.trans hsecond.grown

/-- A call lets the registry grow. -/
theorem grown_perform (registry : ComponentRegistry) (call : Call) :
    Grown registry (call.perform registry) := by
  cases call with
  | registerRepository env source options =>
    exact (repositoryStep env registry source options).grown
  | registerLogin options => exact (loginStep registry options).grown
  | configure env source options => exact (configureStep env registry source options).grown

/-- So does every run of calls. -/
theorem grown_run (registry : ComponentRegistry) (calls : List Call) :
    Grown registry (run registry calls) := by
  induction calls generalizing registry with
  | nil => exact .refl registry
  | cons call calls ih => exact (grown_perform registry call).trans (ih (call.perform registry))

/-! ### What is there wins -/

/-- A repository that is there is what registering one gives. -/
theorem RepositoryStep.of_present {result : Except Error (Option Component)}
    (h : RepositoryStep env registry source options after result)
    (hname : registry.get? repositoryName = some component)
    (hvalid : component.repository? ≠ none) : after = registry ∧ result = .ok (some component) := by
  cases h with
  | kept hname' _ =>
    obtain rfl := Option.some.inj (hname.symm.trans hname')
    exact ⟨rfl, rfl⟩
  | refused hname' hnone =>
    obtain rfl := Option.some.inj (hname.symm.trans hname')
    exact absurd hnone hvalid
  | unbound free _ =>
    cases free.symm.trans hname
  | absent free _ _ =>
    cases free.symm.trans hname
  | made free _ _ _ =>
    cases free.symm.trans hname

/-- A login that is there is what registering one gives. -/
theorem LoginStep.of_present {result : Except Error (Option Component)}
    (h : LoginStep registry options after result)
    (hname : registry.get? loginName = some component) (hvalid : component.login? ≠ none) :
    after = registry ∧ result = .ok (some component) := by
  cases h with
  | kept hname' _ =>
    obtain rfl := Option.some.inj (hname.symm.trans hname')
    exact ⟨rfl, rfl⟩
  | refused hname' hnone =>
    obtain rfl := Option.some.inj (hname.symm.trans hname')
    exact absurd hnone hvalid
  | absent free _ =>
    cases free.symm.trans hname
  | made free _ _ =>
    cases free.symm.trans hname

/-- A repository that a step gives is the one in the registry. -/
theorem RepositoryStep.present
    (h : RepositoryStep env registry source options after (.ok (some component))) :
    after.get? repositoryName = some component ∧ component.repository? ≠ none := by
  cases h with
  | kept hname hrepository => exact ⟨hname, by simp [hrepository]⟩
  | made free _ _ _ => exact ⟨ComponentRegistry.get?_add_self .., Option.some_ne_none _⟩

/-- Where there is a repository, a step that does not fail gives the login in the registry. -/
theorem LoginStep.present {found : Option Component}
    (h : LoginStep registry options after (.ok found))
    (hname : registry.get? repositoryName = some component)
    (hvalid : component.repository? ≠ none) :
    ∃ login, found = some login ∧ after.get? loginName = some login ∧ login.login? ≠ none := by
  cases h with
  | kept hlogin hown => exact ⟨_, rfl, hlogin, by simp [hown]⟩
  | absent _ hnone => exact absurd (hnone component hname) hvalid
  | made _ _ _ => exact ⟨_, rfl, ComponentRegistry.get?_add_self .., Option.some_ne_none _⟩

/-- A registry has both components: a repository and a login, each under its name. -/
structure Configured (registry : ComponentRegistry) (components : Components) : Prop where
  repository : ∃ component, components.repository = some component ∧
    registry.get? repositoryName = some component ∧ component.repository? ≠ none
  login : ∃ component, components.login = some component ∧
    registry.get? loginName = some component ∧ component.login? ≠ none

theorem Configured.grown (h : Configured registry components) (hgrown : Grown registry after) :
    Configured after components where
  repository := by
    obtain ⟨component, hcomponent, hname, hvalid⟩ := h.repository
    exact ⟨component, hcomponent, hgrown.kept hname, hvalid⟩
  login := by
    obtain ⟨component, hcomponent, hname, hvalid⟩ := h.login
    exact ⟨component, hcomponent, hgrown.kept hname, hvalid⟩

/-- Components that setting up both gives are those in the registry, unless there are none. -/
theorem ConfigureStep.configured
    (h : ConfigureStep env registry source options after (.ok components))
    (hsome : components.repository ≠ none) : Configured after components := by
  generalize hresult : Except.ok components = result at h
  cases h with
  | failed hfirst => cases hresult
  | absent hfirst =>
    cases hresult
    exact absurd rfl hsome
  | @continued between _ repository second hfirst hsecond =>
    cases second with
    | error e => cases hresult
    | ok found =>
      cases hresult
      obtain ⟨hname, hvalid⟩ := hfirst.present
      -- With a repository there, the second step cannot end without a login.
      obtain ⟨login, rfl, hlogin, hown⟩ := hsecond.present hname hvalid
      exact ⟨⟨repository, rfl, hsecond.grown.kept hname, hvalid⟩, ⟨login, rfl, hlogin, hown⟩⟩

/-- With both components in the registry there is nothing left to do. -/
theorem ConfigureStep.of_configured {result : Except Error Components}
    (h : ConfigureStep env registry source options after result)
    (hboth : Configured registry components) : after = registry ∧ result = .ok components := by
  obtain ⟨repository, hrepository, hname, hvalid⟩ := hboth.repository
  obtain ⟨login, hlogin, hlname, hlvalid⟩ := hboth.login
  cases h with
  | failed hfirst => cases (hfirst.of_present hname hvalid).2
  | absent hfirst => cases (hfirst.of_present hname hvalid).2
  | continued hfirst hsecond =>
    obtain ⟨rfl, hgiven⟩ := hfirst.of_present hname hvalid
    cases hgiven
    obtain ⟨rfl, rfl⟩ := hsecond.of_present hlname hlvalid
    refine ⟨rfl, ?_⟩
    obtain ⟨given, made⟩ := components
    cases hrepository
    cases hlogin
    rfl

end

/-- **What is in the registry wins**, at any time and whatever calls follow. Those calls only let
the registry grow; a repository and a login that are there are given by every later call, even with
a configuration that cannot be bound; and two components that setting up both has given are in the
registry from then on, so that setting up both again gives them and changes nothing. -/
theorem registration_stable (registry : ComponentRegistry) (calls : List Call) :
    Grown registry (run registry calls) ∧
    (∀ component, registry.get? repositoryName = some component → component.repository? ≠ none →
      ∀ env source options,
        (registerRepository env (run registry calls) source options).result =
          .ok (some component)) ∧
    (∀ component, registry.get? loginName = some component → component.login? ≠ none →
      ∀ options, (registerLogin (run registry calls) options).result = .ok (some component)) ∧
    (∀ env source options components,
      (configure env registry source options).result = .ok components →
      components.repository ≠ none →
      let later := run (configure env registry source options).registry calls
      Configured later components ∧ ∀ env' source' options',
        (configure env' later source' options').result = .ok components ∧
          (configure env' later source' options').registry = later) := by
  have hgrown := grown_run registry calls
  refine ⟨hgrown, fun component hname hvalid env source options => ?_,
    fun component hname hvalid options => ?_, fun env source options components hresult hsome => ?_⟩
  · exact ((repositoryStep env _ source options).of_present (hgrown.kept hname) hvalid).2
  · exact ((loginStep _ options).of_present (hgrown.kept hname) hvalid).2
  · have hstep := configureStep env registry source options
    rw [hresult] at hstep
    have hlater := (hstep.configured hsome).grown (grown_run _ calls)
    refine ⟨hlater, fun env' source' options' => ?_⟩
    obtain ⟨hregistry, hagain⟩ :=
      (configureStep env' _ source' options').of_configured hlater
    exact ⟨hagain, hregistry⟩

/-- A configuration that cannot be bound, when one with a client has been set up. -/
theorem registration_stable_unbindable :
    let options : Options := { path := "r", signingKeys := .unreachable }
    let source : PropertySource :=
      ⟨[("r", .map [("google", .map [("client-id", .text "c")])])]⟩
    let broken : PropertySource := ⟨[("r", .map [("google", .bool true)])]⟩
    let first := configure ⟨[]⟩ {} source options
    (Binding.registrations ⟨[]⟩ broken options.path).toOption = none ∧
      ∃ components, first.result = .ok components ∧ components.repository ≠ none ∧
        (configure ⟨[]⟩ first.registry broken options).result = .ok components := by
  intro options source broken first
  have hfound : (first.result.toOption.bind (·.repository)).isSome := by decide +kernel
  cases hresult : first.result with
  | error e =>
    rw [hresult] at hfound
    cases hfound
  | ok components =>
    rw [hresult] at hfound
    have hsome : components.repository ≠ none := Option.isSome_iff_ne_none.mp hfound
    have hstable := (registration_stable {} []).2.2.2 ⟨[]⟩ source options components hresult hsome
    exact ⟨by decide +kernel, components, rfl, hsome, (hstable.2 ⟨[]⟩ broken options).1⟩

end Setup

end OAuthClient
