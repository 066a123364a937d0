import OAuthClient.Value

/-!
# Issues of a configuration

What is reported about properties whose shape cannot be bound, and readings that collect all issues.

## Main declarations

* `Issue`: a value of the wrong kind, or one that no alternative accepts.
* `Checked`: the outcome of a reading, its value or all its issues; `Checked.ap` reads two things
  and collects the issues of both.
-/

namespace OAuthClient

/-- A step from a registration to the value that an issue is about. -/
inductive PathStep where
  | field (name : String)
  | item (index : Nat)
  deriving DecidableEq, Repr

/-- What is wrong with a value at a path. -/
inductive Issue where
  | wrongKind (path : List PathStep) (expected received : Value.Kind)
  | noAlternative (path : List PathStep) (alternatives : List (List Issue))
  deriving Repr

namespace Issue

/-- The path to the value. -/
def path : Issue → List PathStep
  | wrongKind path .. | noAlternative path _ => path

/-- The code under which an issue is reported. -/
def code : Issue → String
  | wrongKind .. => "invalid_type"
  | noAlternative .. => "invalid_union"

/-- The report of an issue. -/
def message : Issue → String
  | wrongKind _ expected received => s!"Expected {expected.name}, received {received.name}"
  | noAlternative .. => "Invalid input"

end Issue

universe u v

/-- The outcome of a reading: what was read, or all issues. -/
abbrev Checked (α : Type u) := Except (List Issue) α

namespace Checked

variable {α : Type u} {β : Type v}

/-- Applies a function that was read to a value that was read, collecting the issues of both in this
order. -/
def ap (f : Checked (α → β)) (x : Checked α) : Checked β :=
  match f, x with
  | .ok f, .ok x => .ok (f x)
  | .ok _, .error e => .error e
  | .error e, .ok _ => .error e
  | .error e, .error e' => .error (e ++ e')

/-- Reads every item, collecting the issues of all of them. -/
def each (read : Nat → α → Checked β) : Nat → List α → Checked (List β)
  | _, [] => .ok []
  | i, x :: xs => ap ((read i x).map List.cons) (each read (i + 1) xs)

theorem ap_eq_ok {f : Checked (α → β)} {x : Checked α} {b : β} (h : ap f x = .ok b) :
    ∃ g a, f = .ok g ∧ x = .ok a ∧ b = g a := by
  cases f with
  | error e => cases x <;> simp [ap] at h
  | ok g =>
    cases x with
    | error e => simp [ap] at h
    | ok a => exact ⟨g, a, rfl, rfl, by simpa [ap, eq_comm] using h⟩

end Checked

end OAuthClient
