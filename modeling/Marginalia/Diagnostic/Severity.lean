import Marginalia.Text.Quoted

/-!
# Severities

A severity is a rank.  The three ranks with a name are those that the library
gives to its own diagnostics; diagnostics that come from elsewhere may carry any
other rank, which is more severe than an error and has no name of its own.
-/

namespace Marginalia

set_option autoImplicit false

/-- How much a diagnostic matters, as a rank. -/
structure Severity where
  rank : UInt8
  deriving DecidableEq, Repr, Inhabited

namespace Severity

/-- For the reader's information. -/
@[match_pattern] def info : Severity := ⟨0⟩

/-- A likely mistake. -/
@[match_pattern] def warn : Severity := ⟨1⟩

/-- A mistake. -/
@[match_pattern] def error : Severity := ⟨2⟩

def name (s : Severity) : Bytes :=
  if s = info then utf8 "info"
  else if s = warn then utf8 "warn"
  else if s = error then utf8 "error"
  else utf8 "unknown"

/-- Is `s` at least as severe as `t`? -/
def atLeast (t s : Severity) : Bool := t.rank ≤ s.rank

/-- The severity written as `text`, in lower or upper case; a warning may be written in full. -/
def parse? (text : Bytes) : Option Severity :=
  if text = utf8 "info" ∨ text = utf8 "INFO" then some info
  else if text = utf8 "warn" ∨ text = utf8 "warning" ∨ text = utf8 "WARN" ∨ text = utf8 "WARNING"
  then some warn
  else if text = utf8 "error" ∨ text = utf8 "ERROR" then some error
  else none

/-- What is said of a text that names no severity. -/
def invalidMessage (text : Bytes) : Bytes :=
  utf8 "invalid severity: " ++ quoted text ++ utf8 " (expected: info|warn|error)"

end Severity

end Marginalia
