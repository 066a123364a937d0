import OAuthClient.Resolution

/-!
# Completing properties by templates

Taking defaults from templates one after the other is a merge in which what is there first wins. An
attribute ends up as the first value that is neither absent nor empty; if there is none, it stays
absent or empty as it was. Hence a template can be applied again without effect, and templates can
be merged before they are applied.

## Main statements

* `orDefault_assoc`, `foldl_orDefault`: the laws of one attribute.
* `Attributes.texts`: the attributes that are texts; the scope is the one other.
* `RegistrationProperties.withDefaults_merges`: the laws of all properties of a registration.
-/

namespace OAuthClient

universe u

/-! ### One attribute -/

section

variable {α : Type u} {isEmpty : α → Bool} {own default : Option α}

/-- A default that is absent or empty is never taken. -/
theorem orDefault_of_default_lacks (h : lacks isEmpty default = true) :
    orDefault isEmpty own default = own := by
  simp [orDefault, h]

theorem orDefault_self (own : Option α) : orDefault isEmpty own own = own := by
  simp [orDefault]

/-- Defaults can be merged before they are taken. -/
theorem orDefault_assoc (own first second : Option α) :
    orDefault isEmpty (orDefault isEmpty own first) second =
      orDefault isEmpty own (orDefault isEmpty first second) := by
  cases hown : lacks isEmpty own with
  | false => simp only [orDefault_of_not_lacks hown]
  | true =>
    cases hfirst : lacks isEmpty first with
    | false =>
      rw [orDefault_of_lacks hown hfirst, orDefault_of_not_lacks hfirst,
        orDefault_of_lacks hown hfirst]
    | true =>
      -- The first default neither fills the attribute nor stands in the way of the second.
      rw [orDefault_of_default_lacks hfirst]
      cases hsecond : lacks isEmpty second with
      | false => rw [orDefault_of_lacks hfirst hsecond]
      | true =>
        rw [orDefault_of_default_lacks hsecond, orDefault_of_default_lacks hsecond,
          orDefault_of_default_lacks hfirst]

/-- Of an attribute and defaults for it, taken one after the other, the first that is neither absent
nor empty is left. -/
theorem foldl_orDefault (own : Option α) (defaults : List (Option α)) :
    defaults.foldl (orDefault isEmpty) own =
      ((own :: defaults).find? (!lacks isEmpty ·)).getD own := by
  induction defaults generalizing own with
  | nil => cases h : lacks isEmpty own <;> simp [h]
  | cons default defaults ih =>
    rw [List.foldl_cons, ih]
    cases hown : lacks isEmpty own with
    | false =>
      rw [orDefault_of_not_lacks hown]
      simp [hown]
    | true =>
      cases hdefault : lacks isEmpty default with
      | false =>
        rw [orDefault_of_lacks hown hdefault]
        simp [hown, hdefault]
      | true =>
        rw [orDefault_of_default_lacks hdefault]
        simp [hown, hdefault]

end

/-! ### All attributes -/

namespace Attributes

/-- The attributes that are texts. -/
def texts : List (Attributes → Option String) :=
  [(·.clientAuthenticationMethod), (·.authorizationGrantType), (·.redirectUri),
   (·.authorizationUri), (·.tokenUri), (·.userInfoUri), (·.jwkSetUri), (·.clientName),
   (·.clientAlias)]

theorem get_withDefaults {get : Attributes → Option String} (h : get ∈ texts)
    (own defaults : Attributes) : get (own.withDefaults defaults) =
      orDefault String.isEmpty (get own) (get defaults) := by
  simp only [texts, List.mem_cons, List.not_mem_nil, or_false] at h
  rcases h with rfl | rfl | rfl | rfl | rfl | rfl | rfl | rfl | rfl <;> rfl

theorem withDefaults_self (own : Attributes) : own.withDefaults own = own := by
  simp only [withDefaults, orDefault_self]

theorem withDefaults_assoc (own first second : Attributes) :
    (own.withDefaults first).withDefaults second =
      own.withDefaults (first.withDefaults second) := by
  simp only [withDefaults, orDefault_assoc]

end Attributes

/-! ### The properties of a registration -/

/-- A template as the properties of a registration, which name no other template. -/
def Template.asProperties (t : Template) : RegistrationProperties where
  toAttributes := t.toAttributes
  clientId := t.clientId
  clientSecret := t.clientSecret

/-- The properties of a registration as a template. -/
def RegistrationProperties.asTemplate (p : RegistrationProperties) : Template where
  toAttributes := p.toAttributes
  clientId := p.clientId
  clientSecret := p.clientSecret

namespace RegistrationProperties

/-- The properties, completed by templates one after the other. -/
def completed (p : RegistrationProperties) (templates : List Template) : RegistrationProperties :=
  templates.foldl withDefaults p

/-- Templates never touch client id, client secret and template id. -/
theorem identity_completed (p : RegistrationProperties) (templates : List Template) :
    (p.completed templates).clientId = p.clientId ∧
      (p.completed templates).clientSecret = p.clientSecret ∧
      (p.completed templates).templateId = p.templateId := by
  unfold completed
  induction templates generalizing p with
  | nil => exact ⟨rfl, rfl, rfl⟩
  | cons t templates ih => exact ih (p.withDefaults t)

/-- An attribute that every template completes as a value with a default is completed so by all of
them in turn. -/
theorem get_completed {α : Type} {isEmpty : α → Bool} (get : Attributes → Option α)
    (hget : ∀ own defaults : Attributes,
      get (own.withDefaults defaults) = orDefault isEmpty (get own) (get defaults))
    (p : RegistrationProperties) (templates : List Template) :
    get (p.completed templates).toAttributes =
      (templates.map (get ·.toAttributes)).foldl (orDefault isEmpty) (get p.toAttributes) := by
  unfold completed
  induction templates generalizing p with
  | nil => rfl
  | cons t templates ih =>
    have hfirst : get (p.withDefaults t).toAttributes =
        orDefault isEmpty (get p.toAttributes) (get t.toAttributes) := hget ..
    rw [List.foldl_cons, ih, List.map_cons, List.foldl_cons, hfirst]

/-- An attribute that is neither absent nor empty stays. -/
theorem get_completed_of_not_lacks {α : Type} {isEmpty : α → Bool} (get : Attributes → Option α)
    (hget : ∀ own defaults : Attributes,
      get (own.withDefaults defaults) = orDefault isEmpty (get own) (get defaults))
    {p : RegistrationProperties} (h : lacks isEmpty (get p.toAttributes) = false)
    (templates : List Template) :
    get (p.completed templates).toAttributes = get p.toAttributes := by
  rw [get_completed get hget, foldl_orDefault, List.find?_cons_of_pos (by simp [h])]
  rfl

/-- The laws of completing the properties of a registration by templates. -/
structure Merges (p : RegistrationProperties) : Prop where
  idempotent : ∀ t : Template, (p.withDefaults t).withDefaults t = p.withDefaults t
  /-- Two templates can be merged before they complete the properties. -/
  associative : ∀ first second : Template, (p.withDefaults first).withDefaults second =
    p.withDefaults (first.asProperties.withDefaults second).asTemplate
  identity : ∀ templates : List Template, (p.completed templates).clientId = p.clientId ∧
    (p.completed templates).clientSecret = p.clientSecret ∧
    (p.completed templates).templateId = p.templateId
  /-- Whatever templates follow, an attribute that is not empty stays. -/
  texts_stay : ∀ get ∈ Attributes.texts, ∀ value, value ≠ "" →
    get p.toAttributes = some value → ∀ templates : List Template,
      get (p.completed templates).toAttributes = some value
  scope_stays : ∀ scope, scope ≠ [] → p.scope = some scope → ∀ templates : List Template,
    (p.completed templates).scope = some scope

/-- **Completing properties by templates is a merge** that keeps what is there first. -/
theorem withDefaults_merges (p : RegistrationProperties) : Merges p where
  idempotent t := by
    have hattributes : (p.toAttributes.withDefaults t.toAttributes).withDefaults t.toAttributes =
        p.toAttributes.withDefaults t.toAttributes := by
      rw [Attributes.withDefaults_assoc, Attributes.withDefaults_self]
    unfold withDefaults
    rw [hattributes]
  associative first second := by
    unfold withDefaults
    rw [Attributes.withDefaults_assoc]
    rfl
  identity := identity_completed p
  texts_stay get hget value hne hvalue templates := by
    have hlacks : lacks String.isEmpty (get p.toAttributes) = false := by
      simpa [hvalue, lacks] using hne
    rw [get_completed_of_not_lacks get (Attributes.get_withDefaults hget) hlacks, hvalue]
  scope_stays scope hne hscope templates := by
    have hlacks : lacks List.isEmpty p.scope = false := by
      simpa [hscope, lacks] using hne
    have hstays := get_completed_of_not_lacks (·.scope) (fun _ _ => rfl) hlacks templates
    exact hstays.trans hscope

end RegistrationProperties

end OAuthClient
