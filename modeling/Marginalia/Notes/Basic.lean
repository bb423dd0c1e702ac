import Marginalia.Diagnostic.Basic
import Marginalia.Text.Bytes

/-!
# Documentation notes

The notes of a file are what its marked comments say: one description, the
examples and the tech-debt notes in the order they stand, each with the line and
the owner of its comment, and the diagnostics found on the way.

Notes can be grouped by owner.  A missing owner counts as the empty name.
-/

namespace Marginalia

set_option autoImplicit false

/-- An example with the line and the owner of its comment. -/
structure Example where
  code : Bytes
  expected : Option Bytes
  line : Int
  raw : Bytes
  owner : Option Bytes
  deriving DecidableEq, Repr, Inhabited

/-- A tech-debt note with the line and the owner of its comment. -/
structure TechDebt where
  line : Int
  reason : Bytes
  raw : Bytes
  owner : Option Bytes
  deriving DecidableEq, Repr, Inhabited

/-- What the marked comments of a file say. -/
structure Notes where
  description : Option Bytes := none
  examples : List Example := []
  debts : List TechDebt := []
  diagnostics : List Diagnostic := []
  deriving DecidableEq, Repr, Inhabited

/-- The name of an owner, a missing one having the empty name. -/
def ownerName (owner : Option Bytes) : Bytes := owner.getD []

/-- The elements of a list without those that occurred before. -/
def firstSeen (names : List Bytes) : List Bytes :=
  names.foldl (fun seen name => if seen.contains name then seen else seen ++ [name]) []

namespace Notes

/-- The examples of one owner, in order. -/
def examplesOf (n : Notes) (name : Bytes) : List Example :=
  n.examples.filter fun e => ownerName e.owner = name

/-- The tech-debt notes of one owner, in order. -/
def debtsOf (n : Notes) (name : Bytes) : List TechDebt :=
  n.debts.filter fun d => ownerName d.owner = name

/-- The owners of examples, then those of tech-debt notes, each once and in the order first seen. -/
def owners (n : Notes) : List Bytes :=
  firstSeen (n.examples.map (fun e => ownerName e.owner) ++ n.debts.map fun d => ownerName d.owner)

/-- Is there nothing to list but diagnostics? -/
def isEmpty (n : Notes) : Bool := n.description.isNone && n.examples.isEmpty && n.debts.isEmpty

end Notes

end Marginalia
