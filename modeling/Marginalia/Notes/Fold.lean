import Marginalia.Comment
import Marginalia.Marker.Basic
import Marginalia.Notes.Basic

/-!
# From comments to notes

Comments are folded into notes from first to last.  The first description wins
and every later one is reported; examples and tech-debt notes are collected in
order; an example block without examples and a tech-debt note without a reason
are reported.  A plain comment without an owner is reported when the comments
have several owners between them, because then it is not clear whom it belongs
to.

Every diagnostic takes its position and owner from the comment it is about.
-/

namespace Marginalia

set_option autoImplicit false

/-! ## Messages -/

namespace Finding

def extraDescription : Bytes × Bytes :=
  (utf8 "only the first description marker is kept; this one is ignored",
   utf8 "merge this text into the first description or turn it into a plain comment")

def ambiguous : Bytes × Bytes :=
  (utf8 "comment has no owning declaration and could belong to several",
   utf8 "move the comment directly above the declaration it documents")

def emptyExamples : Bytes × Bytes :=
  (utf8 "example block contains no examples",
   utf8 "add one example per line, for example `add(1, 2) // 3`")

def emptyReason : Bytes × Bytes :=
  (utf8 "tech-debt marker has no reason",
   utf8 "explain after the marker why the shortcut exists")

/-- The diagnostic about comment `c` with this code, message and suggestion. -/
def about (c : Comment) (code : Code) (text : Bytes × Bytes) : Diagnostic :=
  { Diagnostic.ofCode code c.line text.1 with
    column := some c.column, owner := c.owner, suggestion := some text.2 }

end Finding

/-- Do the comments have several owners, and is there one without? -/
def couldBeAmbiguous (comments : List Comment) : Bool :=
  1 < (firstSeen (comments.filterMap Comment.owner)).length && comments.any Comment.orphan

namespace Notes

def report (n : Notes) (d : Diagnostic) : Notes := { n with diagnostics := n.diagnostics ++ [d] }

/-- Folds one comment into the notes; `ambiguous` says whether a plain comment without an owner is
to be reported. -/
def step (ambiguous : Bool) (n : Notes) (c : Comment) : Notes :=
  match Marker.ofText c.fullText with
  | .plain =>
    if c.orphan && ambiguous then n.report (Finding.about c .ambiguous Finding.ambiguous) else n
  | .description value =>
    match n.description with
    | some _ => n.report (Finding.about c .extraDescription Finding.extraDescription)
    | none => { n with description := some value }
  | .example_ examples =>
    let stamped := examples.map fun e =>
      { code := e.code, expected := e.expected, line := c.line, raw := e.raw, owner := c.owner }
    let n := { n with examples := n.examples ++ stamped }
    if examples.isEmpty then n.report (Finding.about c .emptyExamples Finding.emptyExamples) else n
  | .techDebt reason =>
    let reason := reason.trim
    let n := { n with debts := n.debts ++
      [{ line := c.line, reason := reason, raw := reason, owner := c.owner }] }
    if reason.isEmpty then n.report (Finding.about c .emptyReason Finding.emptyReason) else n

/-- The notes of a list of comments. -/
def ofComments (comments : List Comment) : Notes :=
  comments.foldl (step (couldBeAmbiguous comments)) {}

end Notes

end Marginalia
