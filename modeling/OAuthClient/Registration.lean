/-!
# Client registrations

A registration that is ready for its provider: every attribute is decided.

## Main declarations

* `AuthenticationMethod`, `GrantType`: how the client authenticates and what it asks for, by name.
* `ScopeSet`: scopes without repetition, in the order in which they were first given.
* `Registration`: a registration.
-/

namespace OAuthClient

/-- How a client authenticates to the provider. -/
inductive AuthenticationMethod where
  | clientSecretBasic
  | clientSecretPost
  /-- A method of an application's own registrations. -/
  | custom (name : String)
  deriving DecidableEq, Repr

namespace AuthenticationMethod

/-- The name of a method in requests. -/
def name : AuthenticationMethod → String
  | clientSecretBasic => "client_secret_basic"
  | clientSecretPost => "client_secret_post"
  | custom name => name

/-- The method with a name. -/
def ofName (name : String) : AuthenticationMethod :=
  if name = "client_secret_basic" then clientSecretBasic
  else if name = "client_secret_post" then clientSecretPost
  else custom name

@[simp] theorem name_ofName (s : String) : (ofName s).name = s := by
  unfold ofName
  split
  · simp_all [name]
  · split <;> simp_all [name]

end AuthenticationMethod

/-- What a client asks the provider for. -/
inductive GrantType where
  | authorizationCode
  /-- A grant of an application's own registrations. -/
  | custom (name : String)
  deriving DecidableEq, Repr

namespace GrantType

/-- The name of a grant in requests. -/
def name : GrantType → String
  | authorizationCode => "authorization_code"
  | custom name => name

/-- The grant with a name. -/
def ofName (name : String) : GrantType :=
  if name = "authorization_code" then authorizationCode else custom name

@[simp] theorem name_ofName (s : String) : (ofName s).name = s := by
  unfold ofName; split <;> simp_all [name]

end GrantType

/-! ### Scopes -/

/-- Leaves out every text that stands earlier in the list or is one of those seen before. -/
def distinctAfter (seen : List String) : List String → List String
  | [] => []
  | s :: ss => if s ∈ seen then distinctAfter seen ss else s :: distinctAfter (s :: seen) ss

theorem mem_distinctAfter {seen ss : List String} {s : String} :
    s ∈ distinctAfter seen ss ↔ s ∈ ss ∧ s ∉ seen := by
  induction ss generalizing seen with
  | nil => simp [distinctAfter]
  | cons t ts ih =>
    by_cases h : t ∈ seen
    · simp only [distinctAfter, h, if_true, ih, List.mem_cons]; grind
    · simp only [distinctAfter, h, if_false, ih, List.mem_cons]; grind

theorem nodup_distinctAfter (seen ss : List String) : (distinctAfter seen ss).Nodup := by
  induction ss generalizing seen with
  | nil => simp [distinctAfter]
  | cons t ts ih =>
    by_cases h : t ∈ seen
    · simpa [distinctAfter, h] using ih seen
    · simp [distinctAfter, h, mem_distinctAfter, ih]

/-- Scopes without repetition, in the order in which they were first given. -/
structure ScopeSet where
  items : List String
  nodup : items.Nodup
  deriving DecidableEq, Repr

/-- The scopes in a list. -/
def ScopeSet.ofList (ss : List String) : ScopeSet :=
  ⟨distinctAfter [] ss, nodup_distinctAfter [] ss⟩

theorem ScopeSet.mem_ofList {ss : List String} {s : String} :
    s ∈ (ScopeSet.ofList ss).items ↔ s ∈ ss := by
  simp [ScopeSet.ofList, mem_distinctAfter]

instance : Inhabited ScopeSet := ⟨.ofList []⟩

/-! ### Registrations -/

/-- The endpoints of a provider. -/
structure ProviderDetails where
  authorizationUri : Option String := none
  tokenUri : Option String := none
  userInfoUri : Option String := none
  /-- The JWK set that ID tokens are verified with. -/
  jwkSetUri : Option String := none
  deriving DecidableEq, Repr, Inhabited

/-- A registration. An authentication method or grant type that is configured but unknown is
absent. -/
structure Registration where
  registrationId : String
  clientId : String
  clientSecret : Option String := none
  clientAuthenticationMethod : Option AuthenticationMethod := none
  authorizationGrantType : Option GrantType := none
  redirectUri : Option String := none
  scope : ScopeSet := .ofList []
  providerDetails : ProviderDetails := {}
  clientName : Option String := none
  deriving DecidableEq, Repr, Inhabited

end OAuthClient
