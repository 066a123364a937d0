import Mathlib.Data.List.Forall2
import OAuthClient.Proofs.Repository
import OAuthClient.Resolution

/-!
# What resolving registrations gives

A registration is described attribute by attribute: what it is given by its own properties, what
by the template that its name leads to, and how choices and scopes are read. Resolving a map of
properties gives exactly the registrations so described, in the order of the map, for those
properties that have a client id. No registration depends on any entry but its own.

## Main statements

* `Catalog.FirstNamed`: which template a name stands for, and `Catalog.firstNamed_find?`.
* `firstNonempty`: a value with a default, in the words of the requirement.
* `Resolution.methodNamed`, `Resolution.grantNamed`: what the configured choices stand for.
* `Resolution.Describes`: what a registration is for some properties and a template.
* `Resolution.describes_one`, `Resolution.one_of_not_hasClientId`: how one entry is resolved.
* `Resolution.all_pointwise`: how a map of properties is resolved.
-/

namespace OAuthClient

/-! ### Templates by name -/

namespace Catalog

/-- The template that a name stands for: that of the first entry whose name is the wanted one
ignoring case, or none if there is no such entry. -/
inductive FirstNamed (catalog : Catalog) (wanted : String) : Option Template → Prop
  | found {before after : List (String × Template)} {name : String} {template : Template} :
      catalog = before ++ (name, template) :: after →
      (∀ e ∈ before, Text.lowercase e.1 ≠ Text.lowercase wanted) →
      Text.lowercase name = Text.lowercase wanted →
      FirstNamed catalog wanted (some template)
  | absent :
      (∀ e ∈ catalog, Text.lowercase e.1 ≠ Text.lowercase wanted) →
      FirstNamed catalog wanted none

/-- Looking up a name finds the template that it stands for. -/
theorem firstNamed_find? (catalog : Catalog) (wanted : String) :
    catalog.FirstNamed wanted (catalog.find? wanted) := by
  unfold find?
  cases h : List.find? (fun e => Text.lowercase e.1 == Text.lowercase wanted) catalog with
  | none =>
    refine .absent fun e he => ?_
    simpa using List.find?_eq_none.mp h e he
  | some e =>
    obtain ⟨name, template⟩ := e
    obtain ⟨hname, before, after, hsplit, hbefore⟩ := List.find?_eq_some_iff_append.mp h
    refine .found hsplit (fun e he => ?_) (by simpa using hname)
    simpa using hbefore e he

/-- A name stands for one template at most. -/
theorem FirstNamed.find?_eq {catalog : Catalog} {wanted : String} {template : Option Template}
    (h : catalog.FirstNamed wanted template) : catalog.find? wanted = template := by
  unfold find?
  cases h with
  | @found before after name template hsplit hbefore hname =>
    have hnone : before.find? (fun e => Text.lowercase e.1 == Text.lowercase wanted) = none :=
      List.find?_eq_none.mpr fun e he => by simpa using hbefore e he
    rw [hsplit, List.find?_append, hnone, Option.none_or,
      List.find?_cons_of_pos (by simpa using hname)]
    rfl
  | absent hnone =>
    rw [List.find?_eq_none.mpr fun e he => by simpa using hnone e he]
    rfl

end Catalog

/-! ### Values with a default -/

section

universe u

variable {α : Type u} (isEmpty : α → Bool)

/-- The own value unless it is empty, else the default unless that is empty, else the own value as
it is. -/
def firstNonempty (own default : Option α) : Option α :=
  (own.filter (!isEmpty ·)).or ((default.filter (!isEmpty ·)).or own)

theorem orDefault_eq_firstNonempty (own default : Option α) :
    orDefault isEmpty own default = firstNonempty isEmpty own default := by
  unfold orDefault firstNonempty lacks
  cases own with
  | none => cases default with
    | none => rfl
    | some d => cases h : isEmpty d <;> simp [Option.filter, h]
  | some x => cases h : isEmpty x with
    | false => simp [Option.filter, h]
    | true => cases default with
      | none => simp [Option.filter, h]
      | some d => cases h' : isEmpty d <;> simp [Option.filter, h, h']

/-- Without a default a value stays as it is. -/
theorem orDefault_none (own : Option α) : orDefault isEmpty own none = own := by
  simp [orDefault, lacks]

end

/-- Scopes without repetition are those that are left when later repetitions are erased. -/
theorem distinctAfter_eq (seen ss : List String) :
    distinctAfter seen ss = (ss.filter (· ∉ seen)).eraseDups := by
  induction ss generalizing seen with
  | nil => rfl
  | cons s ss ih =>
    by_cases h : s ∈ seen
    · rw [distinctAfter, if_pos h, ih]
      simp [h]
    · -- The scope is kept, and its repetitions are erased from what follows.
      rw [distinctAfter, if_neg h, ih, List.filter_cons_of_pos (by simpa using h),
        List.eraseDups_cons, List.filter_filter]
      congr 2
      refine List.filter_congr fun t _ => ?_
      by_cases hs : t = s <;> simp [hs]

theorem ScopeSet.items_ofList (ss : List String) : (ScopeSet.ofList ss).items = ss.eraseDups := by
  show distinctAfter [] ss = ss.eraseDups
  rw [distinctAfter_eq]
  congr 1
  simp

namespace Resolution

/-! ### What a registration is -/

/-- An attribute of a registration: its own value, with that of its template as the default. -/
def attributeOf {α : Type} (isEmpty : α → Bool) (get : Attributes → Option α)
    (template : Option Template) (p : RegistrationProperties) : Option α :=
  firstNonempty isEmpty (get p.toAttributes) (template.bind fun t => get t.toAttributes)

/-- An attribute that is a text. -/
abbrev textOf := attributeOf String.isEmpty

/-- The authentication method that a configured choice stands for; unknown choices stand for none. -/
def methodNamed : String → Option AuthenticationMethod
  | "basic" => some (.ofName "client_secret_basic")
  | "post" => some (.ofName "client_secret_post")
  | _ => none

/-- The grant type that a configured choice stands for. -/
def grantNamed : String → Option GrantType
  | "authorization_code" => some (.ofName "authorization_code")
  | _ => none

/-- What a registration is for an id, some properties and the template that these lead to. -/
structure Describes (id : String) (p : RegistrationProperties) (template : Option Template)
    (r : Registration) : Prop where
  registrationId : r.registrationId = id
  clientId : p.clientId = some r.clientId
  clientId_ne : r.clientId ≠ ""
  clientSecret : r.clientSecret = p.clientSecret
  /-- An absent, empty or unknown choice is none. -/
  clientAuthenticationMethod : r.clientAuthenticationMethod =
    (textOf (·.clientAuthenticationMethod) template p).bind methodNamed
  authorizationGrantType : r.authorizationGrantType =
    (textOf (·.authorizationGrantType) template p).bind grantNamed
  redirectUri : r.redirectUri = textOf (·.redirectUri) template p
  /-- Of equal scopes the first one is kept. -/
  scope : r.scope.items =
    ((attributeOf List.isEmpty (·.scope) template p).getD []).eraseDups
  authorizationUri : r.providerDetails.authorizationUri = textOf (·.authorizationUri) template p
  tokenUri : r.providerDetails.tokenUri = textOf (·.tokenUri) template p
  userInfoUri : r.providerDetails.userInfoUri = textOf (·.userInfoUri) template p
  jwkSetUri : r.providerDetails.jwkSetUri = textOf (·.jwkSetUri) template p
  clientName : r.clientName = textOf (·.clientName) template p

/-! ### How one entry is resolved -/

/-- Completing properties never touches the client id. -/
@[simp] theorem clientId_effective (catalog : Catalog) (id : String) (p : RegistrationProperties) :
    (effective catalog id p).clientId = p.clientId := by
  unfold effective
  cases catalog.find? (p.templateId.getD id) <;> rfl

/-- Completing properties never touches the client secret. -/
@[simp] theorem clientSecret_effective (catalog : Catalog) (id : String)
    (p : RegistrationProperties) : (effective catalog id p).clientSecret = p.clientSecret := by
  unfold effective
  cases catalog.find? (p.templateId.getD id) <;> rfl

theorem hasClientId_eq_false_iff {p : RegistrationProperties} :
    p.hasClientId = false ↔ p.clientId = none ∨ p.clientId = some "" := by
  unfold RegistrationProperties.hasClientId lacks
  cases h : p.clientId with
  | none => simp
  | some c => simp [String.isEmpty_iff]

/-- An attribute of completed properties, for any attribute that is completed as a value with a
default. -/
theorem get_effective {α : Type} {isEmpty : α → Bool} (get : Attributes → Option α)
    (hget : ∀ own defaults : Attributes,
      get (own.withDefaults defaults) = orDefault isEmpty (get own) (get defaults))
    (catalog : Catalog) (id : String) (p : RegistrationProperties) :
    get (effective catalog id p).toAttributes =
      attributeOf isEmpty get (catalog.find? (p.templateId.getD id)) p := by
  unfold effective attributeOf
  cases catalog.find? (p.templateId.getD id) with
  | none => exact ((orDefault_eq_firstNonempty ..).symm.trans (orDefault_none ..)).symm
  | some t => exact (hget ..).trans (orDefault_eq_firstNonempty ..)

theorem lookup_authenticationMethods (name : String) :
    authenticationMethods.lookup name = methodNamed name := by
  unfold methodNamed
  split
  · rfl
  · rfl
  · next hbasic hpost =>
    exact List.lookup_eq_none_iff.mpr (by simpa [authenticationMethods] using ⟨hbasic, hpost⟩)

theorem lookup_grantTypes (name : String) : grantTypes.lookup name = grantNamed name := by
  unfold grantNamed
  split
  · rfl
  · next hcode => exact List.lookup_eq_none_iff.mpr (by simpa [grantTypes] using hcode)

/-- A choice is the one that its name stands for; the empty one is no name. -/
theorem choose_fst {α : Type} {choices : List (String × α)} {named : String → Option α}
    (hnamed : ∀ name, choices.lookup name = named name) (hempty : named "" = none)
    (value : Option String) (what id : String) (logger : Logger) :
    (choose choices value what id logger).1 = value.bind named := by
  unfold choose
  split
  · rfl
  · exact hempty.symm
  · next name _ =>
    rw [hnamed name, Option.bind_some]
    cases named name <;> rfl

/-- What completed properties describe is the registration for the properties and their template. -/
theorem describes_registration {catalog : Catalog} {id c : String} {p : RegistrationProperties}
    (hc : p.clientId = some c) (hne : c ≠ "") (logger : Logger) :
    Describes id p (catalog.find? (p.templateId.getD id))
      (registration id c (effective catalog id p) logger).1 where
  registrationId := rfl
  clientId := hc
  clientId_ne := hne
  clientSecret := clientSecret_effective catalog id p
  clientAuthenticationMethod := by
    have hget := get_effective (·.clientAuthenticationMethod) (fun _ _ => rfl)
      catalog id p
    exact (choose_fst lookup_authenticationMethods rfl ..).trans
      (congrArg (Option.bind · methodNamed) hget)
  authorizationGrantType := by
    have hget := get_effective (·.authorizationGrantType) (fun _ _ => rfl) catalog id p
    exact (choose_fst lookup_grantTypes rfl ..).trans (congrArg (Option.bind · grantNamed) hget)
  redirectUri := get_effective (·.redirectUri) (fun _ _ => rfl) catalog id p
  scope := by
    have hget := get_effective (·.scope) (fun _ _ => rfl) catalog id p
    rw [← hget]
    exact ScopeSet.items_ofList _
  authorizationUri := get_effective (·.authorizationUri) (fun _ _ => rfl) catalog id p
  tokenUri := get_effective (·.tokenUri) (fun _ _ => rfl) catalog id p
  userInfoUri := get_effective (·.userInfoUri) (fun _ _ => rfl) catalog id p
  jwkSetUri := get_effective (·.jwkSetUri) (fun _ _ => rfl) catalog id p
  clientName := get_effective (·.clientName) (fun _ _ => rfl) catalog id p

/-- The description of a registration leaves nothing open. -/
theorem Describes.unique {id : String} {p : RegistrationProperties} {template : Option Template}
    {r r' : Registration} (h : Describes id p template r) (h' : Describes id p template r') :
    r = r' := by
  have hclient : r.clientId = r'.clientId :=
    Option.some.inj (h.clientId.symm.trans h'.clientId)
  have hscope : r.scope = r'.scope := by
    rw [ScopeSet.mk.injEq]
    exact h.scope.trans h'.scope.symm
  have hdetails : r.providerDetails = r'.providerDetails := by
    rw [ProviderDetails.mk.injEq]
    exact ⟨h.authorizationUri.trans h'.authorizationUri.symm,
      h.tokenUri.trans h'.tokenUri.symm, h.userInfoUri.trans h'.userInfoUri.symm,
      h.jwkSetUri.trans h'.jwkSetUri.symm⟩
  rw [Registration.mk.injEq]
  exact ⟨h.registrationId.trans h'.registrationId.symm, hclient,
    h.clientSecret.trans h'.clientSecret.symm,
    h.clientAuthenticationMethod.trans h'.clientAuthenticationMethod.symm,
    h.authorizationGrantType.trans h'.authorizationGrantType.symm,
    h.redirectUri.trans h'.redirectUri.symm, hscope, hdetails,
    h.clientName.trans h'.clientName.symm⟩

/-- Properties without a client id are left out. -/
theorem one_of_not_hasClientId {p : RegistrationProperties} (h : p.hasClientId = false)
    (catalog : Catalog) (id : String) (logger : Logger) : (one catalog id p logger).1 = none := by
  unfold one
  rcases hasClientId_eq_false_iff.mp h with hc | hc
  · simp [hc]
  · simp [hc]

/-- Properties with a client id are resolved to the registration that they describe. -/
theorem describes_one {p : RegistrationProperties} (h : p.hasClientId = true)
    (catalog : Catalog) (id : String) (logger : Logger) :
    ∃ r, (one catalog id p logger).1 = some r ∧
      Describes id p (catalog.find? (p.templateId.getD id)) r := by
  obtain ⟨c, hc, hne⟩ : ∃ c, p.clientId = some c ∧ c ≠ "" := by
    cases hc : p.clientId with
    | none => simp [hasClientId_eq_false_iff.mpr (.inl hc)] at h
    | some c =>
      refine ⟨c, rfl, ?_⟩
      rintro rfl
      simp [hasClientId_eq_false_iff.mpr (.inr hc)] at h
  refine ⟨_, ?_, describes_registration hc hne logger⟩
  unfold one
  simp only [clientId_effective, hc]

/-- What comes of an entry depends on the logger in nothing but the log. -/
theorem one_fst_logger (catalog : Catalog) (id : String) (p : RegistrationProperties)
    (logger logger' : Logger) : (one catalog id p logger).1 = (one catalog id p logger').1 := by
  cases h : p.hasClientId with
  | false => rw [one_of_not_hasClientId h, one_of_not_hasClientId h]
  | true =>
    obtain ⟨r, hr, hdesc⟩ := describes_one h catalog id logger
    obtain ⟨r', hr', hdesc'⟩ := describes_one h catalog id logger'
    rw [hr, hr', hdesc.unique hdesc']

/-! ### How a map is resolved -/

/-- The registrations that some entries are resolved to. -/
def resolved (catalog : Catalog) (registrations : Entries RegistrationProperties)
    (logger : Logger) : List Registration :=
  registrations.filterMap fun e => (one catalog e.1 e.2 logger).1

theorem resolved_logger (catalog : Catalog) (registrations : Entries RegistrationProperties)
    (logger logger' : Logger) :
    resolved catalog registrations logger = resolved catalog registrations logger' := by
  unfold resolved
  congr 1
  exact funext fun e => one_fst_logger catalog e.1 e.2 logger logger'

theorem all_fst (catalog : Catalog) (registrations : Entries RegistrationProperties)
    (logger : Logger) : (all catalog registrations logger).1 =
      Repository.ofList (resolved catalog registrations logger) := by
  unfold all resolved
  simp only [List.filterMap_map]
  rfl

/-- The repository depends on the logger in nothing but the log. -/
theorem all_fst_logger (catalog : Catalog) (registrations : Entries RegistrationProperties)
    (logger logger' : Logger) :
    (all catalog registrations logger).1 = (all catalog registrations logger').1 := by
  rw [all_fst, all_fst, resolved_logger]

/-- The entries with a client id are resolved one by one, in their order. -/
theorem forall₂_resolved (catalog : Catalog) (registrations : Entries RegistrationProperties)
    (logger : Logger) :
    List.Forall₂ (fun e r => Describes e.1 e.2 (catalog.find? (e.2.templateId.getD e.1)) r)
      (registrations.filter (·.2.hasClientId)) (resolved catalog registrations logger) := by
  induction registrations with
  | nil => exact .nil
  | cons e es ih =>
    unfold resolved at ih ⊢
    cases h : e.2.hasClientId with
    | false =>
      rw [List.filter_cons_of_neg (by simp [h]), List.filterMap_cons,
        one_of_not_hasClientId h]
      exact ih
    | true =>
      obtain ⟨r, hr, hdesc⟩ := describes_one h catalog e.1 logger
      rw [List.filter_cons_of_pos (by simp [h]), List.filterMap_cons, hr]
      exact .cons hdesc ih

/-- The ids of the registrations are those of the entries with a client id. -/
theorem ids_resolved (catalog : Catalog) (registrations : Entries RegistrationProperties)
    (logger : Logger) :
    (resolved catalog registrations logger).map (·.registrationId) =
      configuredIds registrations := by
  have h := forall₂_resolved catalog registrations logger
  unfold configuredIds
  generalize registrations.filter (·.2.hasClientId) = es at h
  generalize resolved catalog registrations logger = rs at h
  induction h with
  | nil => rfl
  | cons hdesc _ ih => rw [List.map_cons, List.map_cons, ih, hdesc.registrationId]

/-- The ids of entries with distinct keys are distinct. -/
theorem nodup_configuredIds {registrations : Entries RegistrationProperties}
    (distinct : registrations.keys.Nodup) : (configuredIds registrations).Nodup :=
  distinct.sublist (List.Sublist.map _ List.filter_sublist)

/-- A map of properties is always resolved: no id comes up twice. -/
theorem all_eq_ok {registrations : Entries RegistrationProperties}
    (distinct : registrations.keys.Nodup) (catalog : Catalog) (logger : Logger) :
    ∃ repository, (all catalog registrations logger).1 = .ok repository ∧
      repository.registrations = resolved catalog registrations logger := by
  have hids : ((resolved catalog registrations logger).map (·.registrationId)).Nodup := by
    rw [ids_resolved]
    exact nodup_configuredIds distinct
  exact ⟨⟨_, hids⟩, (all_fst ..).trans (Repository.ofList_of_nodup hids), rfl⟩

/-- The registration under an id is what comes of the entry under that key. -/
theorem find?_resolved {registrations : Entries RegistrationProperties}
    (distinct : registrations.keys.Nodup) (catalog : Catalog) (logger : Logger) (id : String) :
    (resolved catalog registrations logger).find? (·.registrationId == id) =
      (registrations.get? id).bind fun p => (one catalog id p logger).1 := by
  induction registrations with
  | nil => rfl
  | cons e es ih =>
    have hnodup : (e.1 :: Entries.keys es).Nodup := distinct
    obtain ⟨hnotMem, htail⟩ := List.nodup_cons.mp hnodup
    have ih := ih htail
    unfold resolved at ih ⊢
    rw [List.filterMap_cons, Entries.get?_cons]
    by_cases hid : e.1 = id
    · subst hid
      have hrest : Entries.get? es e.1 = none := (Entries.get?_eq_none_iff es e.1).mpr hnotMem
      rw [if_pos rfl, Option.bind_some]
      cases h : e.2.hasClientId with
      | false =>
        -- The entry gives nothing, and no later one has its key.
        rw [one_of_not_hasClientId h]
        rw [hrest] at ih
        exact ih
      | true =>
        obtain ⟨r, hr, hdesc⟩ := describes_one h catalog e.1 logger
        rw [hr]
        exact List.find?_cons_of_pos (by simp [hdesc.registrationId])
    · rw [if_neg hid]
      cases h : e.2.hasClientId with
      | false =>
        rw [one_of_not_hasClientId h]
        exact ih
      | true =>
        obtain ⟨r, hr, hdesc⟩ := describes_one h catalog e.1 logger
        rw [hr]
        refine (List.find?_cons_of_neg ?_).trans ih
        simpa [hdesc.registrationId] using hid

/-- What a repository has to do with the map of properties that it comes from. -/
structure Pointwise (catalog : Catalog) (registrations : Entries RegistrationProperties)
    (repository : Repository) : Prop where
  /-- It holds, in the order of the map, exactly one registration for each entry with a client id,
  the one that the entry and its template describe. -/
  described : List.Forall₂
    (fun e r => ∃ template, catalog.FirstNamed (e.2.templateId.getD e.1) template ∧
      Describes e.1 e.2 template r)
    (registrations.filter (·.2.hasClientId)) repository.registrations
  /-- Whatever other entries there are, an entry resolves to the same registration. -/
  independent : ∀ (others : Entries RegistrationProperties) (logger : Logger)
    (repository' : Repository), others.keys.Nodup →
      (all catalog others logger).1 = .ok repository' →
      ∀ id, others.get? id = registrations.get? id → repository'.find? id = repository.find? id

/-- **Resolution is pointwise**: a map of properties resolves to a repository that holds what each
entry and its template describe, and nothing about one registration depends on another entry. -/
theorem all_pointwise {registrations : Entries RegistrationProperties}
    (distinct : registrations.keys.Nodup) (catalog : Catalog) (logger : Logger) :
    ∃ repository, (all catalog registrations logger).1 = .ok repository ∧
      Pointwise catalog registrations repository := by
  obtain ⟨repository, hok, hregistrations⟩ := all_eq_ok distinct catalog logger
  refine ⟨repository, hok, ?_, ?_⟩
  · rw [hregistrations]
    refine (forall₂_resolved catalog registrations logger).imp fun e r hdesc => ?_
    exact ⟨_, catalog.firstNamed_find? _, hdesc⟩
  · intro others logger' repository' distinct' hok' id hentry
    obtain ⟨repository'', hok'', hothers⟩ := all_eq_ok distinct' catalog logger'
    obtain rfl : repository'' = repository' := Except.ok.inj (hok''.symm.trans hok')
    -- Both hold under the id what comes of the one entry, whatever the loggers are.
    show repository''.registrations.find? _ = repository.registrations.find? _
    rw [hregistrations, hothers, find?_resolved distinct, find?_resolved distinct', hentry]
    cases registrations.get? id with
    | none => rfl
    | some p => exact one_fst_logger catalog id p logger' logger

/-- Entries that name a template in another case, have equal scopes, keep an empty attribute or have
no client id. -/
theorem all_pointwise_mixed :
    let registrations : Entries RegistrationProperties :=
      [("__proto__", { clientId := some "c", templateId := some "GOOGLE",
                       scope := some ["a", "b", "a"] }),
       ("constructor", { clientId := some "d", clientName := some "" }),
       ("okta", { clientId := some "" })]
    registrations.keys.Nodup ∧
      ∃ repository, (all [("google", { scope := some ["x"], tokenUri := some "t" })]
          registrations Logger.full).1 = .ok repository ∧
        Pointwise [("google", { scope := some ["x"], tokenUri := some "t" })] registrations
          repository :=
  ⟨by decide, all_pointwise (by decide) _ _⟩

end Resolution

end OAuthClient
