import OAuthClient.Login

/-!
# Components

An application keeps its components in a registry, each under a name. A component has an identity:
of two with equal contents the registry knows which is which.

## Main declarations

* `Component`: a component and its identity.
* `ComponentRegistry`: the components by name, in the order in which the names were first used.
* `ComponentRegistry.create`, `ComponentRegistry.set`: makes a component, and puts one under a name.
-/

namespace OAuthClient

/-- What a component is. -/
inductive Component.Content where
  /-- A repository of registrations. -/
  | repository (repository : Repository)
  /-- A login, and the identity of the component that its repository is. -/
  | login (login : Login) (repositoryId : Nat)
  /-- A value that plays no part here. -/
  | value (value : Value)
  /-- A name without a component: the name is taken all the same. -/
  | vacant

/-- A component. -/
structure Component where
  identity : Nat
  content : Component.Content

namespace Component

/-- The repository that a component is. -/
def repository? (component : Component) : Option Repository :=
  match component.content with
  | .repository repository => some repository
  | _ => none

/-- The login that a component is, and the identity of its repository. -/
def login? (component : Component) : Option (Login × Nat) :=
  match component.content with
  | .login login repositoryId => some (login, repositoryId)
  | _ => none

end Component

/-- Components by name. -/
structure ComponentRegistry where
  components : List (String × Component) := []
  /-- The identity of the next component that is made. -/
  next : Nat := 0

namespace ComponentRegistry

/-- The component under a name. -/
def get? (registry : ComponentRegistry) (name : String) : Option Component :=
  registry.components.lookup name

/-- Puts a component under a name in a list: at the place of the name, or at the end. -/
def place (name : String) (component : Component) :
    List (String × Component) → List (String × Component)
  | [] => [(name, component)]
  | (other, old) :: rest =>
    if other = name then (name, component) :: rest else (other, old) :: place name component rest

/-- Puts a component under a name. -/
def set (registry : ComponentRegistry) (name : String) (component : Component) :
    ComponentRegistry :=
  { registry with components := place name component registry.components }

/-- Makes a component with an identity of its own. -/
def create (registry : ComponentRegistry) (content : Component.Content) :
    Component × ComponentRegistry :=
  (⟨registry.next, content⟩, { registry with next := registry.next + 1 })

theorem lookup_place (components : List (String × Component)) (name other : String)
    (component : Component) :
    (place name component components).lookup other =
      if other = name then some component else components.lookup other := by
  induction components with
  | nil =>
    by_cases h : other = name
    · simp [place, h]
    · have h' : (other == name) = false := by simpa using h
      simp [place, List.lookup_cons, h, h']
  | cons c cs ih =>
    obtain ⟨key, old⟩ := c
    by_cases hk : key = name
    · subst hk
      by_cases h : other = key
      · simp [place, h]
      · have h' : (other == key) = false := by simpa using h
        simp [place, List.lookup_cons, h, h']
    · by_cases h : other = key
      · subst h
        simp [place, hk]
      · have h' : (other == key) = false := by simpa using h
        simp [place, List.lookup_cons, hk, h', ih]

/-- A name that a component is put under has it from then on, and all other names keep theirs. -/
theorem get?_set (registry : ComponentRegistry) (name other : String) (component : Component) :
    (registry.set name component).get? other =
      if other = name then some component else registry.get? other :=
  lookup_place ..

end ComponentRegistry

end OAuthClient
