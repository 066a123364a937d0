import OAuthClient.Login

/-!
# Runs of a login

A login is asked for URLs and for the claims of tokens, in any order. All that it remembers between
two steps are its key sources. If the application's sources answer from a directory, whatever was
requested before, those that a login remembers do so as well, and so a key that it gets is the one
in the directory after any run.

## Main statements

* `KeyDirectory`, `SigningKeys.ofDirectory`: sources that answer from a directory.
* `Login.perform`, `Login.run`: one step of a login, and a run of steps.
* `Login.AnswersFrom`: a login answers from a directory; by `Login.AnswersFrom.run` it still does
  after a run, and by `Login.AnswersFrom.key` the keys that it gets are those of the directory.
-/

namespace OAuthClient

/-! ### Directories -/

/-- The keys of JWK set URIs by their ids. A report tells what there is no source or key for. -/
abbrev KeyDirectory := String → Except String (Value → Except String KeyMaterial)

namespace KeyDirectory

/-- The source that answers from what a directory has for a URI. -/
def source (find : Value → Except String KeyMaterial) : KeySource := fun _ keyId => find keyId

/-- The key with an id of a JWK set URI. -/
def key (keys : KeyDirectory) (uri : String) (keyId : Value) : Except String KeyMaterial :=
  match keys uri with
  | .error report => .error report
  | .ok find => find keyId

end KeyDirectory

/-- The application's sources if they answer from a directory, whatever was requested before. -/
def SigningKeys.ofDirectory (keys : KeyDirectory) : SigningKeys :=
  fun _ uri => (keys uri).map KeyDirectory.source

namespace Login

/-! ### Steps -/

/-- What a login is asked for. -/
inductive Step where
  | authorizationUrl (id state : String) (context : RedirectContext)
  | redirectUri (registration : Registration) (context : RedirectContext)
  | verifyToken (now : Int) (id token : String)

/-- What a login answers. -/
inductive Answer where
  | authorizationUrl (result : Except AuthorizationError String)
  | redirectUri (result : Except NoRedirectUri String)
  | verifyToken (result : Except TokenError Value)

/-- The login after a step, and what it answers. -/
def perform (login : Login) : Step → Login × Answer
  | .authorizationUrl id state context =>
    (login, .authorizationUrl (login.authorizationUrl id state context))
  | .redirectUri registration context => (login, .redirectUri (context.expand registration))
  | .verifyToken now id token =>
    let verification := login.verifyToken now id token
    (verification.login, .verifyToken verification.result)

/-- The login after some steps. -/
def run (login : Login) (steps : List Step) : Login :=
  steps.foldl (fun login step => (login.perform step).1) login

/-! ### Answering from a directory -/

/-- A login over some registrations has sources from a directory: those of the application, and
those that it remembers. -/
structure AnswersFrom (login : Login) (registrations : Repository) (keys : KeyDirectory) :
    Prop where
  registrations_eq : login.registrations = registrations
  signingKeys_eq : login.signingKeys = .ofDirectory keys
  sources : ∀ {uri source}, login.sources.lookup uri = some source →
    (keys uri).map KeyDirectory.source = .ok source

section

variable {login : Login} {registrations : Repository} {keys : KeyDirectory}

/-- A login that remembers nothing answers from the directory of its application. -/
theorem answersFrom_new (registrations : Repository) (keys : KeyDirectory) (logger : Logger) :
    AnswersFrom { registrations, logger, signingKeys := .ofDirectory keys } registrations keys where
  registrations_eq := rfl
  signingKeys_eq := rfl
  sources := fun h => by cases h

/-- A request is only noted. -/
theorem AnswersFrom.request (h : login.AnswersFrom registrations keys) (r : KeyRequest) :
    (login.request r).AnswersFrom registrations keys :=
  ⟨h.registrations_eq, h.signingKeys_eq, h.sources⟩

/-- The source of a URI is the one that the directory has, whether it is remembered or new. -/
theorem AnswersFrom.keySource (h : login.AnswersFrom registrations keys) (uri : String) :
    (login.keySource uri).1.AnswersFrom registrations keys ∧
      (login.keySource uri).2.1 = (keys uri).map KeyDirectory.source := by
  unfold Login.keySource
  cases hlookup : login.sources.lookup uri with
  | some source => exact ⟨h, (h.sources hlookup).symm⟩
  | none =>
    simp only [h.signingKeys_eq, SigningKeys.ofDirectory]
    cases hsource : (keys uri).map KeyDirectory.source with
    | error report => exact ⟨h.request _, rfl⟩
    | ok source =>
      refine ⟨⟨h.registrations_eq, h.signingKeys_eq, fun {other found} hfound => ?_⟩, rfl⟩
      rw [List.lookup_append] at hfound
      cases hother : login.sources.lookup other with
      | some remembered =>
        rw [hother] at hfound
        cases hfound
        exact h.sources hother
      | none =>
        -- What was not remembered before is the new source.
        rw [hother, Option.none_or, List.lookup_cons] at hfound
        by_cases hsame : other = uri
        · subst hsame
          rw [beq_self_eq_true] at hfound
          cases hfound
          exact hsource
        · rw [beq_false_of_ne hsame] at hfound
          cases hfound

/-- The key with an id is the one in the directory. -/
theorem AnswersFrom.key (h : login.AnswersFrom registrations keys) (uri : String)
    (keyId : Value) : (login.key uri keyId).1.AnswersFrom registrations keys ∧
      (login.key uri keyId).2.1 = keys.key uri keyId := by
  have hsource := h.keySource uri
  unfold Login.key KeyDirectory.key
  generalize login.keySource uri = outcome at hsource
  obtain ⟨after, source, log, requests⟩ := outcome
  obtain ⟨hafter, hsource⟩ : after.AnswersFrom registrations keys ∧
    source = (keys uri).map KeyDirectory.source := hsource
  cases hkeys : keys uri with
  | error report =>
    rw [hkeys] at hsource
    subst hsource
    exact ⟨hafter, rfl⟩
  | ok find =>
    rw [hkeys] at hsource
    subst hsource
    exact ⟨hafter.request _, rfl⟩

theorem AnswersFrom.verifyDecoded (h : login.AnswersFrom registrations keys) (now : Int)
    (clientId uri : String) (token : Token) :
    (login.verifyDecoded now clientId uri token).1.AnswersFrom registrations keys := by
  unfold Login.verifyDecoded
  split
  · exact h
  · next keyId _ =>
    have hafter := (h.key uri keyId).1
    split
    · next hkey =>
      rw [hkey] at hafter
      exact hafter
    · next hkey =>
      rw [hkey] at hafter
      exact hafter

theorem AnswersFrom.verifyToken (h : login.AnswersFrom registrations keys) (now : Int)
    (id token : String) :
    (login.verifyToken now id token).login.AnswersFrom registrations keys := by
  unfold Login.verifyToken
  split
  · exact h
  · split
    · exact h
    · exact h
    · split
      · exact h
      · exact h
      · exact h.verifyDecoded now _ _ _

/-- A step leaves a login that answers from the directory. -/
theorem AnswersFrom.perform (h : login.AnswersFrom registrations keys) (step : Step) :
    (login.perform step).1.AnswersFrom registrations keys := by
  cases step with
  | authorizationUrl id state context => exact h
  | redirectUri registration context => exact h
  | verifyToken now id token => exact h.verifyToken now id token

/-- So does a run. -/
theorem AnswersFrom.run (h : login.AnswersFrom registrations keys) (steps : List Step) :
    (login.run steps).AnswersFrom registrations keys := by
  induction steps generalizing login with
  | nil => exact h
  | cons step steps ih => exact ih (h.perform step)

end

end Login

end OAuthClient
