import Marginalia.Diagnostic.Code

/-!
# Diagnostics

A diagnostic is a finding about a comment: a code, a message, the position of
the comment, the declaration that owns it, and possibly a suggestion.  A report
is a diagnostic in the making: its parts are filled in one after the other, and
it is emitted at most once, to whoever collects it.
-/

namespace Marginalia

set_option autoImplicit false

/-- A finding about a comment. -/
structure Diagnostic where
  code : Code
  category : Category
  message : Bytes
  line : Int
  column : Option Int := none
  owner : Option Bytes := none
  severity : Severity
  suggestion : Option Bytes := none
  deriving DecidableEq, Repr, Inhabited

namespace Diagnostic

/-- A diagnostic with the severity and the category of its code. -/
def ofCode (code : Code) (line : Int) (message : Bytes) : Diagnostic where
  code := code
  category := code.category
  message := message
  line := line
  severity := code.severity

/-- The diagnostic of which nothing is known. -/
def blank : Diagnostic where
  code := ⟨[]⟩
  category := ⟨[]⟩
  message := []
  line := 0
  severity := .info

/-- The column, an absent one counting as zero. -/
def columnOrZero (d : Diagnostic) : Int := d.column.getD 0

end Diagnostic

/-- A diagnostic in the making, and whether it has been emitted. -/
structure Report where
  diagnostic : Diagnostic
  emitted : Bool := false
  deriving DecidableEq, Repr, Inhabited

namespace Report

/-- A report with the severity and the category of its code. -/
def ofCode (code : Code) (line : Int) (message : Bytes) : Report :=
  { diagnostic := Diagnostic.ofCode code line message }

def withColumn (r : Report) (column : Int) : Report :=
  { r with diagnostic := { r.diagnostic with column := some column } }

/-- Sets the owner, or takes it away. -/
def withOwner (r : Report) (owner : Option Bytes) : Report :=
  { r with diagnostic := { r.diagnostic with owner := owner } }

def withSuggestion (r : Report) (text : Bytes) : Report :=
  { r with diagnostic := { r.diagnostic with suggestion := some text } }

/-- Emits the report into `collect`, unless that was done before. -/
def emit {σ : Type} (r : Report) (collect : Diagnostic → σ → σ) (state : σ) : Report × σ :=
  if r.emitted then (r, state) else ({ r with emitted := true }, collect r.diagnostic state)

/-- Emits the report `n` times. -/
def emitTimes {σ : Type} (collect : Diagnostic → σ → σ) : (n : Nat) → Report → σ → Report × σ
  | 0, r, state => (r, state)
  | n + 1, r, state => emitTimes collect n (r.emit collect state).1 (r.emit collect state).2

end Report

end Marginalia
