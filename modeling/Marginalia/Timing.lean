import Marginalia.Text.Decimal
import Marginalia.Text.Utf8

/-!
# Timings

How long the phases of a run took, in milliseconds, as a table.  The timings of
several files are added up phase by phase.
-/

namespace Marginalia

set_option autoImplicit false

/-- A phase, how long it took, and a note about it. -/
structure Phase where
  name : Bytes
  duration : Float := 0
  note : Bytes := []
  deriving Inhabited

/-- The phases of a run and the time of all together. -/
structure Timing where
  total : Float := 0
  phases : List Phase := []
  deriving Inhabited

namespace Timing

/-- A name in the first column, which has twenty characters. -/
def label (name : Bytes) : Bytes := name ++ List.replicate (20 - (Utf8.decode name).length) 32

/-- A time in the second column. -/
def milliseconds (x : Float) : Bytes := Decimal.padLeft 7 (Decimal.fixed 2 x) ++ utf8 " ms"

def line (p : Phase) : Bytes :=
  utf8 "  " ++ label p.name ++ utf8 " " ++ milliseconds p.duration
    ++ (if p.note.isEmpty then [] else utf8 "  // " ++ p.note) ++ utf8 "\n"

def summary (t : Timing) : Bytes :=
  utf8 "timings:\n" ++ t.phases.flatMap line ++ line { name := utf8 "total", duration := t.total }

/-- Adds a time to the phase with a name; a phase that is not there yet comes last. -/
def addPhase (name : Bytes) (duration : Float) : List Phase → List Phase
  | [] => [{ name, duration := 0 + duration }]
  | p :: rest =>
    if p.name = name then { p with duration := p.duration + duration } :: rest
    else p :: addPhase name duration rest

/-- The sum of timings, phase by phase and without notes. -/
def merge (ts : List Timing) : Timing :=
  ts.foldl (fun sum t =>
    { total := sum.total + t.total
      phases := t.phases.foldl (fun ps p => addPhase p.name p.duration ps) sum.phases }) {}

end Timing

end Marginalia
