/-!
# Log lines

## Main declarations

* `LogLine`: a line of a log, its level, text and possibly a detail.
* `Logger`: the levels that are written; `Logger.write` is what a line leaves in the log.
-/

namespace OAuthClient

/-- The level of a log line. -/
inductive LogLevel where
  | debug | info | warn | error
  deriving DecidableEq, Repr

/-- The name of a level. -/
def LogLevel.name : LogLevel → String
  | debug => "debug"
  | info => "info"
  | warn => "warn"
  | error => "error"

/-- A line of a log. -/
structure LogLine where
  level : LogLevel
  text : String
  detail : Option String := none
  deriving DecidableEq, Repr

/-- The levels that are written; without a logger there are none. -/
structure Logger where
  levels : List LogLevel := []
  deriving DecidableEq, Repr, Inhabited

namespace Logger

/-- Writes all levels. -/
def full : Logger := ⟨[.debug, .info, .warn, .error]⟩

/-- What a line leaves in the log: itself, or nothing if its level is not written. -/
def write (logger : Logger) (line : LogLine) : List LogLine :=
  if line.level ∈ logger.levels then [line] else []

/-- The lines of a log whose level is written. -/
def restrict (logger : Logger) (lines : List LogLine) : List LogLine :=
  lines.filter (·.level ∈ logger.levels)

theorem write_eq_restrict (logger : Logger) (line : LogLine) :
    logger.write line = logger.restrict [line] := by
  simp [write, restrict, List.filter_cons]

@[simp] theorem full_write (line : LogLine) : full.write line = [line] := by
  cases line with
  | mk level text detail => cases level <;> rfl

end Logger

end OAuthClient
