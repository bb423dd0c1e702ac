import Marginalia.Output.Basic
import Marginalia.Output.Style
import Marginalia.Text.Cluster

/-!
# Notes as a listing

The description of each file, then its examples and tech-debt notes by owner.
Expected values stand in a column of their own, which is found by the width of the
examples in cells.  A file without notes is left out.
-/

namespace Marginalia

set_option autoImplicit false

/-- How notes are listed. -/
structure FragmentsOptions where
  style : PathStyle := .auto
  color : Bool := false
  /-- the most cells of an example; without a limit if not positive -/
  width : Int := 0
  deriving DecidableEq, Repr, Inhabited

namespace Fragments

/-- An example cut to a width; where there is room for them, dots show the cut. -/
def clip (width : Int) (s : Bytes) : Bytes :=
  if width ≤ 0 then s
  else if width ≤ 3 then Bytes.cutToWidth width.toNat [] s
  else Bytes.cutToWidth width.toNat (utf8 "...") s

/-- The beginning of the line of a note. -/
def lead (line : Int) : Bytes := utf8 "    L" ++ Decimal.padRight 4 (Decimal.int line) ++ utf8 " "

/-- The line of an example; `width` is the width of the column of examples. -/
def exampleLine (limit : Int) (width : Nat) (e : Example) : Bytes :=
  match e.expected with
  | none => lead e.line ++ clip limit e.code ++ utf8 "\n"
  | some value =>
    lead e.line ++ Bytes.fillRight width (clip limit e.code) ++ utf8 "  ⇒ " ++ value ++ utf8 "\n"

/-- The line of a tech-debt note. -/
def debtLine (color : Bool) (d : TechDebt) : Bytes :=
  lead d.line ++ Style.yellow.paint color (utf8 "debt:") ++ utf8 " "
    ++ (if d.reason.isEmpty then utf8 "(no reason)" else d.reason) ++ utf8 "\n"

/-- The notes of one owner. -/
def owner (o : FragmentsOptions) (n : Notes) (name : Bytes) : Bytes :=
  let examples := n.examplesOf name
  let width := ((examples.map fun e => Bytes.cellWidth (clip o.width e.code)).max?).getD 0
  utf8 "  " ++ Style.cyan.paint o.color (if name.isEmpty then utf8 "<unowned>" else name) ++ utf8 "\n"
    ++ examples.flatMap (exampleLine o.width width)
    ++ (n.debtsOf name).flatMap (debtLine o.color)

/-- The notes of a file, or why it could not be read. -/
def file (o : FragmentsOptions) (scene : Scene) (r : FileResult) : Bytes :=
  let path := Style.bold.paint o.color (scene.display o.style r.path)
  match r.error with
  | some e => path ++ utf8 ": error: " ++ e ++ utf8 "\n"
  | none =>
    if r.notes.isEmpty then []
    else
      path ++ utf8 "\n"
        ++ (match r.notes.description with
            | some text => utf8 "  description: " ++ text ++ utf8 "\n"
            | none => [])
        ++ r.notes.owners.flatMap (owner o r.notes)

end Fragments

/-- The notes of all files. -/
def printFragments (o : FragmentsOptions) (scene : Scene) (results : List FileResult) : Bytes :=
  results.flatMap (Fragments.file o scene)

end Marginalia
