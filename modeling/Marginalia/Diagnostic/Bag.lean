import Marginalia.Diagnostic.Basic

/-!
# Bags of diagnostics

A bag collects diagnostics in the order they come.  It may have a limit; a full
bag refuses further diagnostics.  A limit that is not positive is no limit.
Merging another bag into a limited one keeps everything and raises the limit if
that is needed.

A shelf is a list of bags that are worked on in turn.  A step names the bags it
works on by their places; a step that names a place with no bag fails and
changes nothing.
-/

namespace Marginalia

set_option autoImplicit false

/-- Diagnostics in the order they came, at most `limit` of them if that is positive. -/
structure Bag where
  items : List Diagnostic
  limit : Int
  deriving DecidableEq, Repr, Inhabited

namespace Bag

def new (limit : Int) : Bag := ⟨[], limit⟩

def limited (b : Bag) : Bool := 0 < b.limit

/-- Does the bag refuse further diagnostics? -/
def full (b : Bag) : Bool := b.limited && b.limit ≤ b.items.length

/-- Appends a diagnostic unless the bag is full; tells whether it was appended. -/
def add (b : Bag) (d : Diagnostic) : Bool × Bag :=
  if b.full then (false, b) else (true, { b with items := b.items ++ [d] })

def addAll (b : Bag) (ds : List Diagnostic) : Bag := ds.foldl (fun b d => (b.add d).2) b

/-- Appends the diagnostics of another bag, raising the limit if needed. -/
def merge (b other : Bag) : Bag where
  items := b.items ++ other.items
  limit :=
    let total : Int := b.items.length + other.items.length
    if b.limited && b.limit < total then total else b.limit

/-- Keeps the diagnostics that satisfy `keep`. -/
def filter (keep : Diagnostic → Bool) (b : Bag) : Bag := { b with items := b.items.filter keep }

def transform (f : Diagnostic → Diagnostic) (b : Bag) : Bag := { b with items := b.items.map f }

/-- Is some diagnostic at least an error? -/
def hasErrors (b : Bag) : Bool := b.items.any fun d => Severity.error.atLeast d.severity

/-- Is some diagnostic at least a warning? -/
def hasWarnings (b : Bag) : Bool := b.items.any fun d => Severity.warn.atLeast d.severity

/-- How many diagnostics have this severity. -/
def count (s : Severity) (b : Bag) : Nat := b.items.countP fun d => d.severity = s

end Bag

/-! ## Several bags -/

/-- Where a report goes. -/
inductive Sink where
  /-- into the bag that the step names -/
  | bag
  /-- nowhere -/
  | nowhere
  deriving DecidableEq, Repr, Inhabited

/-- One step of work on a shelf. -/
inductive ShelfStep where
  | new (limit : Int)
  | add (bag : Nat) (d : Diagnostic)
  /-- merges bag `other`, if there is one to merge, into bag `bag` -/
  | merge (bag : Nat) (other : Option Nat)
  | keepSeverity (bag : Nat) (least : Option Severity)
  | dropCode (bag : Nat) (code : Code)
  | setSeverity (bag : Nat) (severity : Option Severity)
  | report (bag : Nat) (sink : Sink) (times : Nat) (report : Report)
  /-- looks at the first bag; the report of which nothing is known -/
  | blankReport
  deriving Repr, Inhabited

/-- What a step gives back. -/
inductive StepAnswer where
  | nothing
  | stored (yes : Bool)
  | diagnostic (d : Diagnostic)
  deriving DecidableEq, Repr, Inhabited

/-- Bags by place. -/
structure Shelf where
  bags : List Bag := []
  deriving Repr, Inhabited

namespace Shelf

def set (sh : Shelf) (i : Nat) (b : Bag) : Shelf := ⟨sh.bags.set i b⟩

/-- Carries out a step: the answer, the place of the bag worked on and the new shelf, or `none` if
the step names a bag or a severity that does not exist. -/
def step (sh : Shelf) : ShelfStep → Option (StepAnswer × Nat × Shelf)
  | .new limit => some (.nothing, sh.bags.length, ⟨sh.bags ++ [Bag.new limit]⟩)
  | .add i d => do
    let b ← sh.bags[i]?
    let (stored, b) := b.add d
    some (.stored stored, i, sh.set i b)
  | .merge i none => do
    let _ ← sh.bags[i]?
    some (.nothing, i, sh)
  | .merge i (some j) => do
    let b ← sh.bags[i]?
    let other ← sh.bags[j]?
    some (.nothing, i, sh.set i (b.merge other))
  | .keepSeverity i least => do
    let b ← sh.bags[i]?
    let least ← least
    some (.nothing, i, sh.set i (b.filter fun d => least.atLeast d.severity))
  | .dropCode i code => do
    let b ← sh.bags[i]?
    some (.nothing, i, sh.set i (b.filter fun d => d.code ≠ code))
  | .setSeverity i severity => do
    let b ← sh.bags[i]?
    let severity ← severity
    some (.nothing, i, sh.set i (b.transform fun d => { d with severity := severity }))
  | .report i sink times r => do
    let b ← sh.bags[i]?
    let collect (d : Diagnostic) (b : Bag) : Bag :=
      match sink with
      | .bag => (b.add d).2
      | .nowhere => b
    let (r, b) := Report.emitTimes collect times r b
    some (.diagnostic r.diagnostic, i, sh.set i b)
  | .blankReport => do
    let _ ← sh.bags[0]?
    some (.diagnostic Diagnostic.blank, 0, sh)

end Shelf

end Marginalia
