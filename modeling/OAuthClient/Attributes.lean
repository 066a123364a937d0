/-!
# Attributes of a client registration

The attributes that a provider template can supply to a registration. An attribute is absent, or it
has a value, which may be empty.

## Main declarations

* `Attributes`: the attributes.
* `orDefault`: a value, or the default for it if the value is absent or empty and the default is
  not.
* `Attributes.withDefaults`: the same, attribute by attribute.
-/

namespace OAuthClient

universe u

/-- The attributes that a provider template can supply. Authentication method and grant type are in
lower case with underscores, as bound. -/
structure Attributes where
  clientAuthenticationMethod : Option String := none
  authorizationGrantType : Option String := none
  redirectUri : Option String := none
  scope : Option (List String) := none
  authorizationUri : Option String := none
  tokenUri : Option String := none
  userInfoUri : Option String := none
  jwkSetUri : Option String := none
  clientName : Option String := none
  clientAlias : Option String := none
  deriving DecidableEq, Repr, Inhabited

/-! ### Defaults -/

section

variable {α : Type u} (isEmpty : α → Bool)

/-- Whether an attribute is absent or empty. -/
def lacks (value : Option α) : Bool := value.all isEmpty

/-- The own value, or the default if the own value is absent or empty and the default is neither. -/
def orDefault (own default : Option α) : Option α :=
  if lacks isEmpty own && !lacks isEmpty default then default else own

variable {isEmpty}

theorem orDefault_of_not_lacks {own : Option α} (h : lacks isEmpty own = false)
    (default : Option α) : orDefault isEmpty own default = own := by
  simp [orDefault, h]

theorem orDefault_of_lacks {own default : Option α} (h : lacks isEmpty own = true)
    (hd : lacks isEmpty default = false) : orDefault isEmpty own default = default := by
  simp [orDefault, h, hd]

/-- The result is absent or empty just if both values are. -/
theorem lacks_orDefault (own default : Option α) :
    lacks isEmpty (orDefault isEmpty own default) =
      (lacks isEmpty own && lacks isEmpty default) := by
  unfold orDefault
  cases h : lacks isEmpty own <;> cases h' : lacks isEmpty default <;> simp [h, h']

end

/-- The attributes, each one that is absent or empty taken from the defaults if those have it. -/
def Attributes.withDefaults (own defaults : Attributes) : Attributes where
  clientAuthenticationMethod :=
    orDefault String.isEmpty own.clientAuthenticationMethod defaults.clientAuthenticationMethod
  authorizationGrantType :=
    orDefault String.isEmpty own.authorizationGrantType defaults.authorizationGrantType
  redirectUri := orDefault String.isEmpty own.redirectUri defaults.redirectUri
  scope := orDefault List.isEmpty own.scope defaults.scope
  authorizationUri := orDefault String.isEmpty own.authorizationUri defaults.authorizationUri
  tokenUri := orDefault String.isEmpty own.tokenUri defaults.tokenUri
  userInfoUri := orDefault String.isEmpty own.userInfoUri defaults.userInfoUri
  jwkSetUri := orDefault String.isEmpty own.jwkSetUri defaults.jwkSetUri
  clientName := orDefault String.isEmpty own.clientName defaults.clientName
  clientAlias := orDefault String.isEmpty own.clientAlias defaults.clientAlias

end OAuthClient
