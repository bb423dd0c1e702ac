import Marginalia.Json.Record
import Marginalia.Output.Basic

/-!
# Results in Json

All files with their diagnostics and, if wanted, their notes and comments, and a
count of the diagnostics by severity.  The number of diagnostics can be limited.
-/

namespace Marginalia

set_option autoImplicit false

/-- How results are printed in Json. -/
structure DocumentOptions where
  style : PathStyle := .auto
  /-- the most diagnostics to print; without a limit if not positive -/
  max : Int := 0
  fragments : Bool := false
  comments : Bool := false
  deriving DecidableEq, Repr, Inhabited

/-- A file in the document. -/
structure FileEntry where
  path : Bytes
  error : Bytes := []
  description : Option Bytes := none
  examples : List Example := []
  debts : List TechDebt := []
  comments : List Comment := []
  diagnostics : List Diagnostic := []
  deriving DecidableEq, Repr, Inhabited

/-- The document: the files, and the numbers of diagnostics of all severities and of each. -/
structure Document where
  files : List FileEntry
  count : Nat
  errors : Nat
  warnings : Nat
  infos : Nat
  deriving DecidableEq, Repr, Inhabited

namespace Document

/-- The entry of a file, with the given diagnostics. -/
def entry (o : DocumentOptions) (scene : Scene) (r : FileResult) (diagnostics : List Diagnostic) :
    FileEntry :=
  let path := scene.display o.style r.path
  match r.error with
  | some e => { path, error := e }
  | none =>
    { path
      description := if o.fragments then r.notes.description else none
      examples := if o.fragments then r.notes.examples else []
      debts := if o.fragments then r.notes.debts else []
      comments := if o.comments then r.comments else []
      diagnostics }

/-- The diagnostics that a file has to show. -/
def shown (r : FileResult) : List Diagnostic := if r.error.isSome then [] else r.diagnostics

/-- The entries of files, with at most `room` diagnostics in all. -/
def entries (o : DocumentOptions) (scene : Scene) : (room : Option Nat) → List FileResult →
    List FileEntry
  | _, [] => []
  | none, r :: rest => entry o scene r (shown r) :: entries o scene none rest
  | some room, r :: rest =>
    let ds := (shown r).take room
    entry o scene r ds :: entries o scene (some (room - ds.length)) rest

/-- The document of results. -/
def ofResults (o : DocumentOptions) (scene : Scene) (results : List FileResult) : Document :=
  let files := entries o scene (if 0 < o.max then some o.max.toNat else none) results
  let all := files.flatMap FileEntry.diagnostics
  { files
    count := all.length
    errors := all.countP fun d => d.severity = .error
    warnings := all.countP fun d => d.severity = .warn
    infos := all.countP fun d => d.severity ≠ .error ∧ d.severity ≠ .warn }

/-- A list that is left out if it has no elements. -/
def list? {α : Type} (f : α → Json) : List α → Option Json
  | [] => none
  | xs => some (.array (xs.map f))

/-- A file in Json. -/
def entryJson (e : FileEntry) : Json := .ofMembers
  [("path", some (.str e.path)), ("error", if e.error.isEmpty then none else some (.str e.error)),
   ("description", e.description.map .str), ("examples", list? Example.toJson e.examples),
   ("techDebt", list? TechDebt.toJson e.debts), ("comments", list? Comment.toJson e.comments),
   ("diagnostics", some (.array (e.diagnostics.map Diagnostic.toJson)))]

/-- The document in Json. -/
def toJson (d : Document) : Json := .ofMembers
  [("files", some (.array (d.files.map entryJson))), ("count", some (.nat d.count)),
   ("summary", some (.ofMembers
     [("errors", some (.nat d.errors)), ("warnings", some (.nat d.warnings)),
      ("infos", some (.nat d.infos))]))]

end Document

/-- Results in Json. -/
def printDocument (o : DocumentOptions) (scene : Scene) (results : List FileResult) : Bytes :=
  (Document.ofResults o scene results).toJson.document

end Marginalia
