import OAuthClient.Proofs.Login.Run

/-!
# Remembered key sources cannot be observed

A login remembers the key source of a JWK set URI once the application has given it one. If the
application's sources answer from a directory, nobody can tell: whatever it was asked before, a
login answers each step as one would that was made for this step alone. A source that failed to
come is asked for again, and the directory still has none.

## Main statements

* `Login.AnswersFrom.perform_snd`: logins that answer from one directory answer alike.
* `Login.answers`: what a login answers to some steps.
* `Login.answers_eq_map`: each answer is that of a new login.
-/

namespace OAuthClient

namespace Login

section

variable {login other : Login} {registrations : Repository} {keys : KeyDirectory}

/-- What comes of a decoded token depends on the directory alone. -/
theorem AnswersFrom.verifyDecoded_result (h : login.AnswersFrom registrations keys)
    (h' : other.AnswersFrom registrations keys) (now : Int) (clientId uri : String)
    (token : Token) :
    (login.verifyDecoded now clientId uri token).2.1 =
      (other.verifyDecoded now clientId uri token).2.1 := by
  unfold Login.verifyDecoded
  split
  · rfl
  · next keyId _ =>
    have hkey : (login.key uri keyId).2.1 = (other.key uri keyId).2.1 :=
      (h.key uri keyId).2.trans (h'.key uri keyId).2.symm
    -- The logins remember different sources; what counts is what the key is found to be.
    generalize login.key uri keyId = outcome at hkey
    generalize other.key uri keyId = outcome' at hkey
    obtain ⟨after, result, log, requests⟩ := outcome
    obtain ⟨after', result', log', requests'⟩ := outcome'
    obtain rfl : result = result' := hkey
    cases result with
    | error report => rfl
    | ok material => rfl

theorem AnswersFrom.verifyToken_result (h : login.AnswersFrom registrations keys)
    (h' : other.AnswersFrom registrations keys) (now : Int) (id token : String) :
    (login.verifyToken now id token).result = (other.verifyToken now id token).result := by
  unfold Login.verifyToken
  rw [h.registrations_eq, h'.registrations_eq]
  split
  · rfl
  · split
    · rfl
    · rfl
    · split
      · rfl
      · rfl
      · exact congrArg (Except.mapError TokenError.failed)
          (h.verifyDecoded_result h' now _ _ _)

/-- Logins that answer from one directory answer each step alike. -/
theorem AnswersFrom.perform_snd (h : login.AnswersFrom registrations keys)
    (h' : other.AnswersFrom registrations keys) (step : Step) :
    (login.perform step).2 = (other.perform step).2 := by
  cases step with
  | authorizationUrl id state context =>
    show Answer.authorizationUrl _ = Answer.authorizationUrl _
    rw [Login.authorizationUrl, Login.authorizationUrl, h.registrations_eq, h'.registrations_eq]
  | redirectUri registration context => rfl
  | verifyToken now id token =>
    exact congrArg Answer.verifyToken (h.verifyToken_result h' now id token)

end

/-- What a login answers to some steps, one after the other. -/
def answers (login : Login) : List Step → List Answer
  | [] => []
  | step :: steps => (login.perform step).2 :: (login.perform step).1.answers steps

theorem AnswersFrom.answers_eq {login other : Login} {registrations : Repository}
    {keys : KeyDirectory} (h : login.AnswersFrom registrations keys)
    (h' : other.AnswersFrom registrations keys) (steps : List Step) :
    login.answers steps = steps.map fun step => (other.perform step).2 := by
  -- The one login changes with every step, the other is asked each step as it was at first.
  induction steps generalizing login with
  | nil => rfl
  | cons step steps ih =>
    rw [answers, List.map_cons, h.perform_snd h' step, ih (h.perform step)]

/-- **Remembered key sources cannot be observed**: with sources that answer from a directory, a
login answers any steps, one after the other, as new logins would that are each asked one of
them. -/
theorem answers_eq_map (registrations : Repository) (keys : KeyDirectory) (logger other : Logger)
    (steps : List Step) :
    answers { registrations, logger, signingKeys := .ofDirectory keys } steps =
      steps.map fun step =>
        (perform { registrations, logger := other, signingKeys := .ofDirectory keys } step).2 :=
  (answersFrom_new registrations keys logger).answers_eq
    (answersFrom_new registrations keys other) steps

end Login

end OAuthClient
