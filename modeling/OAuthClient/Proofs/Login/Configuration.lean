import OAuthClient.Proofs.Binding
import OAuthClient.Proofs.Binding.Fields
import OAuthClient.Proofs.KeyOrder
import OAuthClient.Proofs.Login.AuthorizationRequest
import OAuthClient.Proofs.Login.RedirectUri
import OAuthClient.Proofs.Resolution

/-!
# From a configuration to authorization URLs

A login over resolved registrations has an authorization URL for an id just if the condition reports
the id, and the properties that are bound for it, completed by their template, ask for the
authorization code grant and give an authorization URI and a redirect URI. The URL is made of what
was bound. If something is missing, the first thing that is missing is what the error reports.

## Main statements

* `Resolution.Configured`: the properties and the template that are configured for an id;
  `Resolution.exists_describes_of_all` says that resolving keeps to them.
* `AuthorizationUrl.Ready`, `AuthorizationUrl.MadeOf`: everything is there that a URL takes, and the
  URL is made of it.
* `AuthorizationUrl.FirstObstacle`: the first thing that is missing, with its error.
* `Login.authorizationUrl_of_ready`, `Login.authorizationUrl_of_firstObstacle`: what comes of
  either.
* `Login.authorizationUrl_followsConfiguration`: a login keeps to the configuration.
-/

namespace OAuthClient

/-- A text that is neither absent nor empty. -/
def Given (text : Option String) : Prop := ∃ s, text = some s ∧ s ≠ ""

theorem not_given_iff {text : Option String} : ¬ Given text ↔ text = none ∨ text = some "" := by
  unfold Given
  cases text with
  | none => simp
  | some s => simp

/-! ### What is configured for an id -/

namespace Resolution

variable {catalog : Catalog} {bound : Entries RegistrationProperties} {id : String}
  {p : RegistrationProperties} {template : Option Template}

/-- What is configured for an id: the properties that are bound for it, and the template that they
lead to. -/
structure Configured (catalog : Catalog) (bound : Entries RegistrationProperties) (id : String)
    (p : RegistrationProperties) (template : Option Template) : Prop where
  bound : bound.get? id = some p
  template : catalog.FirstNamed (p.templateId.getD id) template

theorem mem_configuredIds_iff (distinct : bound.keys.Nodup) :
    id ∈ configuredIds bound ↔ ∃ p, bound.get? id = some p ∧ p.hasClientId = true := by
  unfold configuredIds
  constructor
  · intro h
    obtain ⟨⟨key, p⟩, he, rfl⟩ := List.mem_map.mp h
    obtain ⟨hmem, hclient⟩ := List.mem_filter.mp he
    exact ⟨p, (Entries.mem_iff_get? distinct).mp hmem, hclient⟩
  · rintro ⟨p, hget, hclient⟩
    have hmem : (id, p) ∈ bound.filter (·.2.hasClientId) :=
      List.mem_filter.mpr ⟨Entries.mem_of_get? hget, hclient⟩
    exact List.mem_map_of_mem hmem

theorem exists_configured (distinct : bound.keys.Nodup) (catalog : Catalog)
    (h : id ∈ configuredIds bound) : ∃ p template, Configured catalog bound id p template := by
  obtain ⟨p, hget, -⟩ := (mem_configuredIds_iff distinct).mp h
  exact ⟨p, _, hget, catalog.firstNamed_find? _⟩

section

variable (distinct : bound.keys.Nodup) {logger : Logger} {repository : Repository}
  (hall : (all catalog bound logger).1 = .ok repository)
include distinct hall

/-- The registration under an id is what comes of the properties that are bound for it. -/
theorem find?_of_all (id : String) : repository.find? id =
    (bound.get? id).bind fun p => (one catalog id p logger).1 := by
  obtain ⟨other, hok, hregistrations⟩ := all_eq_ok distinct catalog logger
  obtain rfl : other = repository := Except.ok.inj (hok.symm.trans hall)
  show other.registrations.find? _ = _
  rw [hregistrations, find?_resolved distinct]

theorem find?_eq_none_of_all (h : id ∉ configuredIds bound) : repository.find? id = none := by
  rw [find?_of_all distinct hall]
  cases hget : bound.get? id with
  | none => rfl
  | some p =>
    have hclient : p.hasClientId = false := by
      refine Bool.eq_false_iff.mpr fun hclient => h ?_
      exact (mem_configuredIds_iff distinct).mpr ⟨p, hget, hclient⟩
    exact one_of_not_hasClientId hclient catalog id logger

/-- Under an id that is configured there is the registration that its properties and its template
describe. -/
theorem exists_describes_of_all (h : id ∈ configuredIds bound)
    (hconfigured : Configured catalog bound id p template) :
    ∃ r, repository.find? id = some r ∧ Describes id p template r := by
  obtain ⟨hbound, htemplate⟩ := hconfigured
  obtain ⟨p', hget, hclient⟩ := (mem_configuredIds_iff distinct).mp h
  obtain rfl : p' = p := Option.some.inj (hget.symm.trans hbound)
  obtain ⟨r, hr, hdesc⟩ := describes_one hclient catalog id logger
  rw [htemplate.find?_eq] at hdesc
  refine ⟨r, ?_, hdesc⟩
  rw [find?_of_all distinct hall, hbound]
  exact hr

end

/-- The grant of a registration is that for a code just if its configuration names this grant. -/
theorem Describes.grant_iff {r : Registration} (h : Describes id p template r) :
    r.authorizationGrantType = some .authorizationCode ↔
      textOf (·.authorizationGrantType) template p = some "authorization_code" := by
  rw [h.authorizationGrantType]
  cases textOf (·.authorizationGrantType) template p with
  | none => simp
  | some name =>
    by_cases hname : name = "authorization_code"
    · subst hname
      exact iff_of_true rfl rfl
    · have hnone : grantNamed name = none := by
        rw [← lookup_grantTypes]
        exact List.lookup_eq_none_iff.mpr (by simpa [grantTypes] using hname)
      rw [Option.bind_some, hnone]
      exact iff_of_false (Option.some_ne_none _).symm fun heq => hname (Option.some.inj heq)

end Resolution

/-! ### What a URL takes -/

namespace AuthorizationUrl

open Resolution

variable (ids : List String) (catalog : Catalog) (bound : Entries RegistrationProperties)
  (id : String)

/-- Everything is there that an authorization URL for an id takes: the id is one of those reported,
and its properties, completed by their template, name the grant and give both URIs. -/
structure Ready (p : RegistrationProperties) (template : Option Template) : Prop where
  reported : id ∈ ids
  configured : Configured catalog bound id p template
  grant : textOf (·.authorizationGrantType) template p = some "authorization_code"
  authorizationUri : Given (textOf (·.authorizationUri) template p)
  redirectUri : Given (textOf (·.redirectUri) template p)

/-- A URL is made of what is configured for an id: behind the authorization URI and a question mark
stands a query that reads as the five parameters of the request. -/
def MadeOf (p : RegistrationProperties) (template : Option Template) (state : String)
    (context : RedirectContext) (url : String) : Prop :=
  ∃ clientId authorizationUri redirectUri query,
    p.clientId = some clientId ∧
    textOf (·.authorizationUri) template p = some authorizationUri ∧
    textOf (·.redirectUri) template p = some redirectUri ∧
    url = authorizationUri ++ "?" ++ query ∧
    Form.decode query.toList =
      [("client_id", clientId), ("redirect_uri", context.expandText id redirectUri),
       ("response_type", "code"),
       ("scope", " ".intercalate
          ((attributeOf List.isEmpty (·.scope) template p).getD []).eraseDups),
       ("state", state)]

/-- The first thing that stands in the way of an authorization URL for an id. -/
inductive FirstObstacle : AuthorizationError → Prop
  | unreported : id ∉ ids → FirstObstacle (.unknownRegistration id)
  | grant {p : RegistrationProperties} {template : Option Template} :
      id ∈ ids → Configured catalog bound id p template →
      textOf (·.authorizationGrantType) template p ≠ some "authorization_code" →
      FirstObstacle (.otherGrant id)
  | authorizationUri {p : RegistrationProperties} {template : Option Template} :
      id ∈ ids → Configured catalog bound id p template →
      textOf (·.authorizationGrantType) template p = some "authorization_code" →
      ¬ Given (textOf (·.authorizationUri) template p) →
      FirstObstacle (.noAuthorizationUri id)
  | redirectUri {p : RegistrationProperties} {template : Option Template} :
      id ∈ ids → Configured catalog bound id p template →
      textOf (·.authorizationGrantType) template p = some "authorization_code" →
      Given (textOf (·.authorizationUri) template p) →
      ¬ Given (textOf (·.redirectUri) template p) →
      FirstObstacle (.noRedirectUri ⟨id⟩)

variable {bound}

/-- Either everything is there, or something is the first that is not. -/
theorem ready_or_firstObstacle (distinct : bound.keys.Nodup) :
    (∃ p template, Ready (configuredIds bound) catalog bound id p template) ∨
      ∃ e, FirstObstacle (configuredIds bound) catalog bound id e := by
  by_cases hid : id ∈ configuredIds bound
  · obtain ⟨p, template, hconfigured⟩ := exists_configured distinct catalog hid
    by_cases hgrant :
        textOf (·.authorizationGrantType) template p = some "authorization_code"
    · by_cases hauthorization : Given (textOf (·.authorizationUri) template p)
      · by_cases hredirect : Given (textOf (·.redirectUri) template p)
        · exact .inl ⟨p, template, hid, hconfigured, hgrant, hauthorization, hredirect⟩
        · exact .inr ⟨_, .redirectUri hid hconfigured hgrant hauthorization hredirect⟩
      · exact .inr ⟨_, .authorizationUri hid hconfigured hgrant hauthorization⟩
    · exact .inr ⟨_, .grant hid hconfigured hgrant⟩
  · exact .inr ⟨_, .unreported hid⟩

end AuthorizationUrl

/-! ### Errors of a request -/

namespace Repository

variable {repository : Repository} {id state : String} {context : RedirectContext}
  {r : Registration}

theorem authorizationRequest_of_otherGrant (hfind : repository.find? id = some r)
    (h : r.authorizationGrantType ≠ some .authorizationCode) :
    repository.authorizationRequest id state context = .error (.otherGrant id) := by
  unfold authorizationRequest
  simp only [hfind]
  exact if_pos h

theorem authorizationRequest_of_noAuthorizationUri (hfind : repository.find? id = some r)
    (hgrant : r.authorizationGrantType = some .authorizationCode)
    (h : ¬ Given r.providerDetails.authorizationUri) :
    repository.authorizationRequest id state context = .error (.noAuthorizationUri id) := by
  unfold authorizationRequest
  simp only [hfind, hgrant]
  rcases not_given_iff.mp h with h | h
  · rw [h]
    rfl
  · rw [h]
    rfl

theorem authorizationRequest_of_noRedirectUri (hfind : repository.find? id = some r)
    (hgrant : r.authorizationGrantType = some .authorizationCode)
    (huri : Given r.providerDetails.authorizationUri) (h : ¬ Given r.redirectUri) :
    repository.authorizationRequest id state context =
      .error (.noRedirectUri ⟨r.registrationId⟩) := by
  obtain ⟨uri, huri, hne⟩ := huri
  have hexpand : context.expand r = .error ⟨r.registrationId⟩ := by
    unfold RedirectContext.expand
    rcases not_given_iff.mp h with h | h
    · rw [h]
    · rw [h]
      rfl
  unfold authorizationRequest
  simp only [hfind, hgrant, huri, hexpand]
  rfl

end Repository

/-- An error names a registration in quotes. -/
def AuthorizationError.Names (e : AuthorizationError) (id : String) : Prop :=
  ∃ before after, e.message = before ++ "'" ++ id ++ "'" ++ after

theorem AuthorizationError.Names.of_message {e : AuthorizationError} {id start stop : String}
    (before after : String) (h : e.message = start ++ id ++ stop) (hstart : start = before ++ "'")
    (hstop : stop = "'" ++ after) : e.Names id := by
  refine ⟨before, after, ?_⟩
  rw [h, hstart, hstop, ← String.append_assoc]

namespace Login

open Resolution AuthorizationUrl

section

variable {catalog : Catalog} {bound : Entries RegistrationProperties}
  (distinct : bound.keys.Nodup) {logger : Logger} {login : Login}
  (hall : (all catalog bound logger).1 = .ok login.registrations)
  {id : String} {p : RegistrationProperties} {template : Option Template}
include distinct hall

/-- If everything is there, the URL is made of what is configured. -/
theorem authorizationUrl_of_ready
    (h : Ready (configuredIds bound) catalog bound id p template) (state : String)
    (context : RedirectContext) :
    ∃ url, login.authorizationUrl id state context = .ok url ∧
      MadeOf id p template state context url := by
  obtain ⟨r, hfind, hdesc⟩ := exists_describes_of_all distinct hall h.reported h.configured
  obtain ⟨authorizationUri, hauthorization, hne⟩ := h.authorizationUri
  obtain ⟨redirectUri, hredirect, hne'⟩ := h.redirectUri
  have hexpand : context.expand r = .ok (context.expandText id redirectUri) := by
    refine RedirectContext.expand_eq_ok_iff.mpr ⟨redirectUri, ?_, hne', ?_⟩
    · rw [hdesc.redirectUri, hredirect]
    · rw [hdesc.registrationId]
  let request : AuthorizationRequest :=
    { authorizationUri, clientId := r.clientId, redirectUri := context.expandText id redirectUri
      scope := r.scope, state }
  have hfor : request.IsFor r state context :=
    { grant := hdesc.grant_iff.mpr h.grant
      authorizationUri := hdesc.authorizationUri.trans hauthorization
      authorizationUri_ne := hne
      clientId := rfl
      redirectUri := hexpand
      scope := rfl
      state := rfl }
  have hread : Form.decode (String.ofList (Form.encode request.parameters)).toList =
      request.parameters := by
    rw [String.toList_ofList, Form.decode_encode]
  refine ⟨request.url, authorizationUrl_eq_ok_iff.mpr ⟨r, request, hfind, hfor, rfl⟩, r.clientId,
    authorizationUri, redirectUri, _, hdesc.clientId, hauthorization, hredirect, rfl, ?_⟩
  rw [hread, ← hdesc.scope]
  rfl

/-- If something is missing, the first such thing is what the error reports. -/
theorem authorizationUrl_of_firstObstacle {e : AuthorizationError}
    (h : FirstObstacle (configuredIds bound) catalog bound id e) (state : String)
    (context : RedirectContext) : login.authorizationUrl id state context = .error e := by
  suffices hrequest :
      login.registrations.authorizationRequest id state context = .error e by
    rw [authorizationUrl, hrequest]
    rfl
  cases h with
  | unreported hid =>
    unfold Repository.authorizationRequest
    rw [find?_eq_none_of_all distinct hall hid]
  | grant hid hconfigured hgrant =>
    obtain ⟨r, hfind, hdesc⟩ := exists_describes_of_all distinct hall hid hconfigured
    exact Repository.authorizationRequest_of_otherGrant hfind (mt hdesc.grant_iff.mp hgrant)
  | authorizationUri hid hconfigured hgrant huri =>
    obtain ⟨r, hfind, hdesc⟩ := exists_describes_of_all distinct hall hid hconfigured
    rw [← hdesc.authorizationUri] at huri
    exact Repository.authorizationRequest_of_noAuthorizationUri hfind
      (hdesc.grant_iff.mpr hgrant) huri
  | redirectUri hid hconfigured hgrant huri hredirect =>
    obtain ⟨r, hfind, hdesc⟩ := exists_describes_of_all distinct hall hid hconfigured
    rw [← hdesc.authorizationUri] at huri
    rw [← hdesc.redirectUri] at hredirect
    rw [← hdesc.registrationId]
    exact Repository.authorizationRequest_of_noRedirectUri (hdesc.registrationId ▸ hfind)
      (hdesc.grant_iff.mpr hgrant) huri hredirect

end

/-- Every obstacle is reported with the id that it is about. -/
theorem names_of_firstObstacle {ids : List String} {catalog : Catalog}
    {bound : Entries RegistrationProperties} {id : String} {e : AuthorizationError}
    (h : FirstObstacle ids catalog bound id e) : e.Names id := by
  cases h with
  | unreported =>
    exact .of_message "Unknown client registration " "" rfl (by decide +kernel) (by decide +kernel)
  | grant =>
    exact .of_message "Client registration " " does not use the authorization code grant" rfl
      (by decide +kernel) (by decide +kernel)
  | authorizationUri =>
    exact .of_message "Client registration " " has no authorization URI" rfl
      (by decide +kernel) (by decide +kernel)
  | redirectUri =>
    exact .of_message "Client registration " " has no redirect URI" rfl
      (by decide +kernel) (by decide +kernel)

/-- A login keeps to what is configured: which ids are reported, what is bound for them, and which
templates there are. -/
structure FollowsConfiguration (login : Login) (ids : List String) (catalog : Catalog)
    (bound : Entries RegistrationProperties) : Prop where
  succeeds_iff : ∀ id state context,
    (∃ url, login.authorizationUrl id state context = .ok url) ↔
      ∃ p template, Ready ids catalog bound id p template
  /-- A URL is made of what was bound and what the template supplies. -/
  madeOf : ∀ id state context url, login.authorizationUrl id state context = .ok url →
    ∃ p template, Configured catalog bound id p template ∧
      MadeOf id p template state context url
  /-- The error is that of the first thing that is missing, and no other. -/
  fails_iff : ∀ id state context e, login.authorizationUrl id state context = .error e ↔
    FirstObstacle ids catalog bound id e
  named : ∀ id state context e, login.authorizationUrl id state context = .error e → e.Names id

/-- **A login over resolved registrations has the authorization URLs that the configuration calls
for**, and reports the first thing that is missing for any other. -/
theorem authorizationUrl_followsConfiguration {env : Environment} {source : PropertySource}
    {path : String} {bound : Entries RegistrationProperties}
    (h : Binding.registrations env source path = .ok bound) (catalog : Catalog)
    (logger : Logger) :
    ∃ outcome repository, Condition.evaluate env source path = .ok outcome ∧
      (all catalog bound logger).1 = .ok repository ∧
      ∀ login : Login, login.registrations = repository →
        FollowsConfiguration login outcome.registrationIds catalog bound := by
  have distinct := Binding.nodup_keys_registrations h
  obtain ⟨repository, hall, -⟩ := all_eq_ok distinct catalog logger
  refine ⟨Condition.outcome bound, repository, ?_, hall, ?_⟩
  · rw [Condition.evaluate_eq, h]
    rfl
  rintro login rfl
  have hready {id p template} (h : Ready (configuredIds bound) catalog bound id p template) :=
    authorizationUrl_of_ready distinct hall h
  have hobstacle {id e} (h : FirstObstacle (configuredIds bound) catalog bound id e) :=
    authorizationUrl_of_firstObstacle distinct hall h
  -- What is not the one is the other, so that either outcome tells which of them it is.
  have hcases (id : String) := ready_or_firstObstacle catalog id distinct
  have hfails : ∀ id state context e, login.authorizationUrl id state context = .error e →
      FirstObstacle (configuredIds bound) catalog bound id e := by
    intro id state context e herror
    rcases hcases id with ⟨p, template, h⟩ | ⟨e', h⟩
    · obtain ⟨url, hok, -⟩ := hready h state context
      cases hok.symm.trans herror
    · obtain rfl := Except.error.inj ((hobstacle h state context).symm.trans herror)
      exact h
  have hsucceeds : ∀ id state context url, login.authorizationUrl id state context = .ok url →
      ∃ p template, Ready (configuredIds bound) catalog bound id p template := by
    intro id state context url hok
    rcases hcases id with h | ⟨e, h⟩
    · exact h
    · cases (hobstacle h state context).symm.trans hok
  constructor
  · intro id state context
    constructor
    · rintro ⟨url, hok⟩
      exact hsucceeds id state context url hok
    · rintro ⟨p, template, h⟩
      obtain ⟨url, hok, -⟩ := hready h state context
      exact ⟨url, hok⟩
  · intro id state context url hok
    obtain ⟨p, template, h⟩ := hsucceeds id state context url hok
    obtain ⟨url', hok', hmade⟩ := hready h state context
    obtain rfl := Except.ok.inj (hok'.symm.trans hok)
    exact ⟨p, template, h.configured, hmade⟩
  · intro id state context e
    exact ⟨hfails id state context e, fun h => hobstacle h state context⟩
  · intro id state context e herror
    exact names_of_firstObstacle (hfails id state context e herror)

/-- A grant in capitals, an empty URI that the template of the same name fills, and an id without a
template. -/
theorem authorizationUrl_followsConfiguration_relaxed :
    let source : PropertySource := ⟨[("r", .map [
      ("GitHub", .map [("client-id", .num (.ofNat 7)), ("redirect-uri", .text ""),
        ("authorization-grant-type", .text " Authorization-Code ")]),
      ("other", .map [("clientId", .text "c")])])]⟩
    let bound : Entries RegistrationProperties :=
      [("GitHub", { clientId := some "7", redirectUri := some ""
                    authorizationGrantType := some "authorization_code" }),
       ("other", { clientId := some "c" })]
    let catalog : Catalog :=
      [("github", { authorizationUri := some "https://a.example", redirectUri := some "/cb" })]
    Binding.registrations ⟨[]⟩ source "r" = .ok bound ∧
      ∃ login : Login, (all catalog bound {}).1 = .ok login.registrations ∧
        FollowsConfiguration login ["GitHub", "other"] catalog bound ∧
        ∀ state context, (∃ url, login.authorizationUrl "GitHub" state context = .ok url) ∧
          login.authorizationUrl "other" state context = .error (.otherGrant "other") := by
  intro source bound catalog
  have hbound : Binding.registrations ⟨[]⟩ source "r" = .ok bound := by
    have hsome : (Binding.registrations ⟨[]⟩ source "r").toOption = some bound := by
      decide +kernel
    exact Checked.eq_ok_of_toOption hsome
  obtain ⟨outcome, repository, houtcome, hall, hfollows⟩ :=
    authorizationUrl_followsConfiguration hbound catalog {}
  have hids : outcome = ⟨["GitHub", "other"]⟩ := by
    have hknown : (Condition.evaluate ⟨[]⟩ source "r").toOption = some ⟨["GitHub", "other"]⟩ := by
      decide +kernel
    rw [houtcome] at hknown
    exact Option.some.inj hknown
  let login : Login := { registrations := repository, signingKeys := .unreachable }
  have hfollows := hfollows login rfl
  rw [hids] at hfollows
  refine ⟨hbound, login, hall, hfollows, fun state context => ⟨?_, ?_⟩⟩
  · have htemplate := catalog.firstNamed_find? "GitHub"
    refine (hfollows.succeeds_iff ..).mpr ⟨_, _, by decide, ⟨rfl, htemplate⟩, ?_, ?_, ?_⟩
    · decide +kernel
    · exact ⟨"https://a.example", by decide +kernel, by decide⟩
    · exact ⟨"/cb", by decide +kernel, by decide⟩
  · have htemplate := catalog.firstNamed_find? "other"
    refine (hfollows.fails_iff ..).mpr (.grant (by decide) ⟨rfl, htemplate⟩ ?_)
    decide +kernel

end Login

end OAuthClient
