import OAuthClient.Login
import OAuthClient.Proofs.Text.Form

/-!
# What a provider finds in an authorization URL

A request is written behind the authorization URI of the provider, after a question mark. Read
alone, what is written there gives the parameters of the request and nothing else, whatever texts
the request is made of. The provider reads more than that: all that follows the first question mark.
An authorization URI with a query of its own runs together with the request, which costs the last
parameter of the one and the first of the other.

## Main statements

* `AuthorizationRequest.IsFor`: a request is one for a registration.
* `Login.authorizationUrl_decodes`: the written request reads back as its parameters.
* `Form.served`: what a server finds in a URL; `AuthorizationRequest.WellFormed` says that it finds
  the parameters of the request and those of the authorization URI.
* `Login.authorizationUrl_wellFormed_iff`: when this is so; `Login.authorizationUrl_loses_clientId`
  has a registration for which it is not.
-/

namespace OAuthClient

/-! ### Requests for registrations -/

/-- A request is one for a registration. -/
structure AuthorizationRequest.IsFor (request : AuthorizationRequest) (registration : Registration)
    (state : String) (context : RedirectContext) : Prop where
  grant : registration.authorizationGrantType = some .authorizationCode
  authorizationUri :
    registration.providerDetails.authorizationUri = some request.authorizationUri
  authorizationUri_ne : request.authorizationUri ≠ ""
  clientId : request.clientId = registration.clientId
  redirectUri : context.expand registration = .ok request.redirectUri
  scope : request.scope = registration.scope
  state : request.state = state

theorem Repository.authorizationRequest_eq_ok_iff {repository : Repository} {id state : String}
    {context : RedirectContext} {request : AuthorizationRequest} :
    repository.authorizationRequest id state context = .ok request ↔
      ∃ registration, repository.find? id = some registration ∧
        request.IsFor registration state context := by
  unfold authorizationRequest
  constructor
  · intro h
    split at h
    · cases h
    · next registration hfind =>
      split at h
      · cases h
      · next hgrant =>
        split at h
        · cases h
        · cases h
        · next uri hne huri =>
          cases hexpand : context.expand registration with
          | error cause =>
            rw [hexpand] at h
            cases h
          | ok redirectUri =>
            rw [hexpand] at h
            cases h
            exact ⟨registration, hfind, Classical.not_not.mp hgrant, huri, hne, rfl, hexpand, rfl,
              rfl⟩
  · rintro ⟨registration, hfind, hfor⟩
    obtain ⟨uri, clientId, redirectUri, scope, state⟩ := request
    obtain ⟨hgrant, huri, hne, rfl, hexpand, rfl, rfl⟩ := hfor
    simp only at huri hne hexpand
    simp only [hfind, hgrant, huri, hexpand]
    rfl

theorem Login.authorizationUrl_eq_ok_iff {login : Login} {id state url : String}
    {context : RedirectContext} :
    login.authorizationUrl id state context = .ok url ↔
      ∃ (registration : Registration) (request : AuthorizationRequest),
        login.registrations.find? id = some registration ∧
        request.IsFor registration state context ∧ request.url = url := by
  unfold authorizationUrl
  cases hrequest : login.registrations.authorizationRequest id state context with
  | error cause =>
    refine iff_of_false (fun h => by cases h) ?_
    rintro ⟨registration, request, hfind, hfor, -⟩
    rw [Repository.authorizationRequest_eq_ok_iff.mpr ⟨registration, hfind, hfor⟩] at hrequest
    cases hrequest
  | ok request =>
    constructor
    · intro h
      obtain ⟨registration, hfind, hfor⟩ := Repository.authorizationRequest_eq_ok_iff.mp hrequest
      exact ⟨registration, request, hfind, hfor, Except.ok.inj h⟩
    · rintro ⟨registration, other, hfind, hfor, rfl⟩
      rw [Repository.authorizationRequest_eq_ok_iff.mpr ⟨registration, hfind, hfor⟩] at hrequest
      obtain rfl := Except.ok.inj hrequest
      rfl

/-! ### What is written for a request -/

namespace Login

/-- **The written request reads back as its parameters**: behind the authorization URI and a
question mark stand only letters, digits and a few marks, and they read as the five parameters of
the request, whatever its texts are. -/
theorem authorizationUrl_decodes {login : Login} {id state url : String}
    {context : RedirectContext} (h : login.authorizationUrl id state context = .ok url) :
    ∃ (registration : Registration) (authorizationUri redirectUri query : String),
      login.registrations.find? id = some registration ∧
      registration.providerDetails.authorizationUri = some authorizationUri ∧
      context.expand registration = .ok redirectUri ∧
      url = authorizationUri ++ "?" ++ query ∧
      (∀ c ∈ query.toList,
        c.isAlphanum = true ∨ c ∈ ['*', '-', '.', '_', '+', '%', '&', '=']) ∧
      Form.decode query.toList =
        [("client_id", registration.clientId), ("redirect_uri", redirectUri),
         ("response_type", "code"), ("scope", " ".intercalate registration.scope.items),
         ("state", state)] := by
  obtain ⟨registration, request, hfind, hfor, rfl⟩ := authorizationUrl_eq_ok_iff.mp h
  refine ⟨registration, request.authorizationUri, request.redirectUri,
    String.ofList (Form.encode request.parameters), hfind, hfor.authorizationUri, hfor.redirectUri,
    rfl, fun c hc => ?_, ?_⟩
  · rw [String.toList_ofList] at hc
    exact Form.mem_encode hc
  · rw [String.toList_ofList, Form.decode_encode, AuthorizationRequest.parameters, hfor.clientId,
      hfor.scope, hfor.state]

/-- A registration whose texts are full of marks that separate parameters. -/
theorem authorizationUrl_decodes_marks :
    let registration : Registration :=
      { registrationId := "g&state=x", clientId := "c=1&scope=all",
        authorizationGrantType := some .authorizationCode,
        redirectUri := some "\x7bbaseUrl\x7d/\x7bregistrationId\x7d",
        scope := .ofList ["a+b", "é%26"],
        providerDetails := { authorizationUri := some "https://idp.example/authorize" } }
    let login : Login :=
      { registrations := ⟨[registration], by decide⟩, signingKeys := .unreachable }
    let context : RedirectContext := ⟨"https", "a&b?c=d", .ofNat 443, none⟩
    ∃ url query, login.authorizationUrl "g&state=x" "&=%+ 😀" context = .ok url ∧
      url = "https://idp.example/authorize" ++ "?" ++ query ∧
      Form.decode query.toList =
        [("client_id", "c=1&scope=all"), ("redirect_uri", "https://a&b?c=d/g&state=x"),
         ("response_type", "code"), ("scope", "a+b é%26"), ("state", "&=%+ 😀")] := by
  intro registration login context
  obtain ⟨url, hurl⟩ : ∃ url, login.authorizationUrl "g&state=x" "&=%+ 😀" context = .ok url :=
    ⟨_, rfl⟩
  obtain ⟨found, uri, redirectUri, query, hfind, huri, hexpand, hquery, -, hdecode⟩ :=
    authorizationUrl_decodes hurl
  obtain rfl : registration = found := Option.some.inj hfind
  obtain rfl := Option.some.inj huri
  have hknown : (context.expand registration).toOption = some "https://a&b?c=d/g&state=x" := by
    decide +kernel
  rw [hexpand] at hknown
  obtain rfl := Option.some.inj hknown
  exact ⟨url, query, hurl, hquery, hdecode⟩

end Login

/-! ### What a server finds -/

namespace Form

/-- The query of a URL without a fragment: what follows the first question mark. -/
def queryOf (url : List Char) : List Char := (url.dropWhile (· ≠ '?')).drop 1

/-- The parameters that a server finds in a URL. -/
def served (url : String) : List (String × String) := decode (queryOf url.toList)

/-- The parameters of a query up to its last ampersand. -/
def earlier (query : List Char) : List (String × String) :=
  decodePieces (Text.cut '&' query).dropLast

/-- What stands behind the last ampersand of a query. -/
def last (query : List Char) : List Char :=
  (Text.cut '&' query).getLast (Text.cut_ne_nil '&' query)

theorem cut_eq_append_last (query : List Char) :
    Text.cut '&' query = (Text.cut '&' query).dropLast ++ [last query] :=
  (List.dropLast_concat_getLast _).symm

theorem mem_decodePieces_singleton {piece : List Char} {p : String × String} :
    p ∈ decodePieces [piece] ↔ piece ≠ [] ∧ p = decodePair piece := by
  by_cases h : piece = []
  · simp [decodePieces, h]
  · simp [decodePieces, h]

/-- What stands behind the last ampersand is a parameter like all others, unless it is empty. -/
theorem decode_eq_append (query : List Char) :
    decode query = earlier query ++ decodePieces [last query] := by
  rw [decode_eq_decodePieces, cut_eq_append_last, decodePieces_append]
  rfl

/-- The first parameter put behind a query and a question mark runs together with what stands behind
the last ampersand of the query; all others are found again. -/
theorem decode_append_encode (query : List Char) (p : String × String)
    (ps : List (String × String)) :
    decode (query ++ '?' :: encode (p :: ps)) =
      earlier query ++ decodePair (last query ++ '?' :: encodePair p) :: ps := by
  have hmark : Text.cut '&' ('?' :: encode (p :: ps)) =
      ('?' :: encodePair p) :: ps.map encodePair := by
    rw [Text.cut, if_neg (by decide), cut_encode]
  have hfound : decodePieces ((last query ++ '?' :: encodePair p) :: ps.map encodePair) =
      decodePair (last query ++ '?' :: encodePair p) :: ps := by
    rw [← List.singleton_append, decodePieces_append, decodePieces_encodePair]
    simp [decodePieces]
  rw [decode_eq_decodePieces, Text.cut_append_eq (cut_eq_append_last query) hmark,
    decodePieces_append, hfound]
  rfl

theorem queryOf_of_not_mem {url : List Char} (h : '?' ∉ url) : queryOf url = [] := by
  rw [queryOf, dropWhile_ne_of_not_mem h]
  rfl

/-- What is put behind the first question mark is the query. -/
theorem queryOf_append_of_not_mem {url : List Char} (h : '?' ∉ url) (query : List Char) :
    queryOf (url ++ '?' :: query) = query := by
  rw [queryOf, dropWhile_ne_append_cons h]
  rfl

/-- A second question mark is part of the query. -/
theorem queryOf_append_of_mem {url : List Char} (h : '?' ∈ url) (rest : List Char) :
    queryOf (url ++ rest) = queryOf url ++ rest := by
  obtain ⟨path, query, rfl, hpath⟩ := List.eq_append_cons_of_mem h
  rw [List.append_assoc, List.cons_append, queryOf_append_of_not_mem hpath,
    queryOf_append_of_not_mem hpath]

end Form

namespace AuthorizationRequest

/-- A server finds the parameters of a request in its URL, and those of the authorization URI are
there as well. -/
structure WellFormed (r : AuthorizationRequest) : Prop where
  parameters : ∀ p ∈ r.parameters, p ∈ Form.served r.url
  own : ∀ p ∈ Form.served r.authorizationUri, p ∈ Form.served r.url

theorem toList_url (r : AuthorizationRequest) :
    r.url.toList = r.authorizationUri.toList ++ '?' :: Form.encode r.parameters := by
  simp [url]

/-- Behind an authorization URI without a query the server finds just the parameters. -/
theorem served_url_of_not_mem {r : AuthorizationRequest}
    (h : '?' ∉ r.authorizationUri.toList) : Form.served r.url = r.parameters := by
  rw [Form.served, toList_url, Form.queryOf_append_of_not_mem h, Form.decode_encode]

section

variable {r : AuthorizationRequest} (h : '?' ∈ r.authorizationUri.toList)
include h

/-- Behind an authorization URI with a query the server finds this query but for its last piece, one
parameter that the last piece and the client id give together, and the parameters that follow. -/
theorem served_url_of_mem :
    Form.served r.url =
      Form.earlier (Form.queryOf r.authorizationUri.toList) ++
        Form.decodePair (Form.last (Form.queryOf r.authorizationUri.toList) ++
          '?' :: Form.encodePair ("client_id", r.clientId)) :: r.parameters.tail := by
  rw [Form.served, toList_url, Form.queryOf_append_of_mem h, parameters,
    Form.decode_append_encode]
  rfl

/-- A parameter that is no longer than one of the two that run together is found if it stands before
or behind them. -/
theorem mem_served_url_iff {p : String × String}
    (hsize : Form.size p ≤
        Form.size (Form.decodePair (Form.last (Form.queryOf r.authorizationUri.toList))) ∨
      Form.size p ≤ Form.size ("client_id", r.clientId)) :
    p ∈ Form.served r.url ↔
      p ∈ Form.earlier (Form.queryOf r.authorizationUri.toList) ++ r.parameters.tail := by
  have hlonger := Form.size_decodePair_append_le Form.standalone_questionMark (by decide)
    (Form.last (Form.queryOf r.authorizationUri.toList))
    (Form.encodePair ("client_id", r.clientId))
  rw [Form.decodePair_encodePair] at hlonger
  -- What the two give together is longer than either of them, so it is not `p`.
  have hne : p ≠ Form.decodePair (Form.last (Form.queryOf r.authorizationUri.toList) ++
      '?' :: Form.encodePair ("client_id", r.clientId)) := by
    intro heq
    rw [← heq] at hlonger
    omega
  rw [served_url_of_mem h, List.mem_append, List.mem_append, List.mem_cons]
  simp only [hne, false_or]

/-- The client id is found only if the query has it already. -/
theorem clientId_mem_served_url_iff :
    ("client_id", r.clientId) ∈ Form.served r.url ↔
      ("client_id", r.clientId) ∈ Form.earlier (Form.queryOf r.authorizationUri.toList) := by
  rw [mem_served_url_iff h (.inr (Nat.le_refl _)), List.mem_append]
  have hlater : ("client_id", r.clientId) ∉ r.parameters.tail := by simp [parameters]
  simp only [hlater, or_false]

/-- All parameters of the query are found only if its last piece is not missed. -/
theorem served_subset_served_url_iff :
    (∀ p ∈ Form.served r.authorizationUri, p ∈ Form.served r.url) ↔
      Form.last (Form.queryOf r.authorizationUri.toList) = [] ∨
        Form.decodePair (Form.last (Form.queryOf r.authorizationUri.toList)) ∈
          Form.earlier (Form.queryOf r.authorizationUri.toList) ++ r.parameters.tail := by
  have hown : Form.served r.authorizationUri = _ :=
    Form.decode_eq_append (Form.queryOf r.authorizationUri.toList)
  rw [hown, ← mem_served_url_iff h (.inl (Nat.le_refl _))]
  constructor
  · intro hfound
    -- An empty piece is no parameter, so there is none to miss.
    by_cases hempty : Form.last (Form.queryOf r.authorizationUri.toList) = []
    · exact .inl hempty
    · exact .inr (hfound _ (List.mem_append_right _
        (Form.mem_decodePieces_singleton.mpr ⟨hempty, rfl⟩)))
  · intro hlast p hp
    rcases List.mem_append.mp hp with hp | hp
    · rw [served_url_of_mem h]
      exact List.mem_append_left _ hp
    · obtain ⟨hne, rfl⟩ := Form.mem_decodePieces_singleton.mp hp
      exact hlast.resolve_left hne

/-- The parameters that follow the client id are always found. -/
theorem mem_served_url_of_mem_tail {p : String × String} (hp : p ∈ r.parameters.tail) :
    p ∈ Form.served r.url := by
  rw [served_url_of_mem h]
  exact List.mem_append_right _ (List.mem_cons_of_mem _ hp)

end

/-- The query of the authorization URI loses nothing by running together with the request: the
client id is there already, before the last ampersand, and what stands behind that ampersand is
empty or gives a parameter that is found anyway. -/
structure LosesNothing (r : AuthorizationRequest) : Prop where
  clientId :
    ("client_id", r.clientId) ∈ Form.earlier (Form.queryOf r.authorizationUri.toList)
  last : Form.last (Form.queryOf r.authorizationUri.toList) = [] ∨
    Form.decodePair (Form.last (Form.queryOf r.authorizationUri.toList)) ∈
      Form.earlier (Form.queryOf r.authorizationUri.toList) ++ r.parameters.tail

/-- A request is well-formed just if its authorization URI has no query, or one that loses
nothing. -/
theorem wellFormed_iff (r : AuthorizationRequest) :
    r.WellFormed ↔ '?' ∉ r.authorizationUri.toList ∨ r.LosesNothing := by
  by_cases h : '?' ∈ r.authorizationUri.toList
  · simp only [h, not_true_eq_false, false_or]
    constructor
    · rintro ⟨hparameters, hown⟩
      exact ⟨(clientId_mem_served_url_iff h).mp (hparameters _ List.mem_cons_self),
        (served_subset_served_url_iff h).mp hown⟩
    · rintro ⟨hclientId, hlast⟩
      refine ⟨fun p hp => ?_, (served_subset_served_url_iff h).mpr hlast⟩
      rcases List.mem_cons.mp hp with rfl | hp
      · exact (clientId_mem_served_url_iff h).mpr hclientId
      · exact mem_served_url_of_mem_tail h hp
  · refine iff_of_true ⟨fun p hp => ?_, fun p hp => ?_⟩ (.inl h)
    · rwa [served_url_of_not_mem h]
    · rw [Form.served, Form.queryOf_of_not_mem h] at hp
      cases hp

end AuthorizationRequest

namespace Login

/-- **When the URL of a login is well-formed**: exactly if the authorization URI of the registration
has no query, or one that loses nothing by running together with the request. -/
theorem authorizationUrl_wellFormed_iff {login : Login} {id state url : String}
    {context : RedirectContext} (h : login.authorizationUrl id state context = .ok url) :
    ∃ (registration : Registration) (request : AuthorizationRequest),
      login.registrations.find? id = some registration ∧
      request.IsFor registration state context ∧ request.url = url ∧
      (request.WellFormed ↔ '?' ∉ request.authorizationUri.toList ∨ request.LosesNothing) := by
  obtain ⟨registration, request, hfind, hfor, rfl⟩ := authorizationUrl_eq_ok_iff.mp h
  exact ⟨registration, request, hfind, hfor, rfl, request.wellFormed_iff⟩

/-- A login over one registration that has an authorization URI. -/
def sampleLogin (authorizationUri : String) : Login :=
  { registrations :=
      ⟨[{ registrationId := "g", clientId := "c",
          authorizationGrantType := some .authorizationCode,
          redirectUri := some "https://app.example/cb",
          scope := .ofList ["openid"],
          providerDetails := { authorizationUri := some authorizationUri } }],
        by simp⟩
    signingKeys := .unreachable }

/-- With a query that only names the client, nothing is lost. -/
theorem authorizationUrl_wellFormed_named :
    let login := sampleLogin "https://idp.example/authorize?client_id=c&"
    let context : RedirectContext := ⟨"https", "app.example", .ofNat 443, none⟩
    ∃ url, login.authorizationUrl "g" "s" context = .ok url ∧
      ∃ request : AuthorizationRequest, request.url = url ∧ request.WellFormed := by
  intro login context
  obtain ⟨url, hurl⟩ : ∃ url, login.authorizationUrl "g" "s" context = .ok url := ⟨_, rfl⟩
  obtain ⟨registration, request, hfind, hfor, rfl, hiff⟩ := authorizationUrl_wellFormed_iff hurl
  refine ⟨_, hurl, request, rfl, hiff.mpr (.inr ?_)⟩
  obtain ⟨uri, clientId, redirectUri, scope, state⟩ := request
  obtain ⟨-, huri, -, rfl, -, -, -⟩ := hfor
  obtain rfl := Option.some.inj hfind
  obtain rfl := Option.some.inj huri
  have hclientId : ("client_id", "c") ∈
      Form.earlier (Form.queryOf "https://idp.example/authorize?client_id=c&".toList) := by
    decide +kernel
  have hlast :
      Form.last (Form.queryOf "https://idp.example/authorize?client_id=c&".toList) = [] := by
    decide +kernel
  exact ⟨hclientId, .inl hlast⟩

/-- A query with one parameter costs this parameter and the client id. -/
theorem authorizationUrl_loses_clientId :
    let login := sampleLogin "https://idp.example/authorize?tenant=1"
    let context : RedirectContext := ⟨"https", "app.example", .ofNat 443, none⟩
    ∃ url, login.authorizationUrl "g" "s" context = .ok url ∧
      Form.served "https://idp.example/authorize?tenant=1" = [("tenant", "1")] ∧
      Form.served url =
        [("tenant", "1?client_id=c"), ("redirect_uri", "https://app.example/cb"),
         ("response_type", "code"), ("scope", "openid"), ("state", "s")] := by
  intro login context
  exact ⟨_, rfl, by decide +kernel, by decide +kernel⟩

end Login

end OAuthClient
