import Marginalia.Diagnostic.Bag
import Marginalia.Notes.Basic
import Marginalia.Owner.Resolver
import Marginalia.Timing

/-!
# Extraction

What an extraction is asked to do, what it finds out about a file, and what it
tells about its progress.
-/

namespace Marginalia

set_option autoImplicit false

/-- What an extraction is asked to do. -/
structure Options where
  /-- put the texts of comments into composed normal form -/
  normalize : Bool := false
  resolver : ResolverKind := .other []
  /-- more patterns of declarations -/
  patterns : List Bytes := []
  /-- the extensions of the files of a directory; without any, the default ones -/
  extensions : List Bytes := []
  /-- the limit of the bag of each file -/
  maxDiagnostics : Int := 0
  /-- leave out what is merely informative -/
  ignoreInfo : Bool := false
  /-- count warnings as errors -/
  warningsAsErrors : Bool := false
  /-- how many files to work on at a time -/
  jobs : Int := 0
  timings : Bool := false
  deriving DecidableEq, Repr, Inhabited

namespace Options

/-- What becomes of a diagnostic in the bag: it is left out, or counts as an error, or stays. -/
def apply (o : Options) (d : Diagnostic) : Option Diagnostic :=
  if o.ignoreInfo && d.severity = .info then none
  else if o.warningsAsErrors && d.severity = .warn then some { d with severity := .error }
  else some d

/-- The bag of a file: the diagnostics of the scan, then those of the notes. -/
def bag (o : Options) (scanned noted : List Diagnostic) : Bag :=
  (Bag.new o.maxDiagnostics).addAll ((scanned ++ noted).filterMap o.apply)

end Options

/-- What was found out about a file. -/
structure FileResult where
  path : Bytes
  fileId : Nat := 0
  comments : List Comment := []
  notes : Notes := {}
  /-- were the notes made from comments?  If not, lists without elements are absent. -/
  folded : Bool := false
  bag : Option Bag := none
  /-- why owners could not be found in the best way -/
  resolverError : Option Bytes := none
  /-- why the file could not be read -/
  error : Option Bytes := none
  cached : Bool := false
  timing : Option Timing := none
  deriving Inhabited

namespace FileResult

/-- The diagnostics of a file. -/
def diagnostics (r : FileResult) : List Diagnostic := (r.bag.map Bag.items).getD []

/-- Could the file not be read, or is a diagnostic an error? -/
def failed (r : FileResult) : Bool := r.error.isSome || (r.bag.map Bag.hasErrors).getD false

end FileResult

/-! ## Progress -/

/-- The step that a file is in. -/
structure Stage where
  name : Bytes
  deriving DecidableEq, Repr, Inhabited

namespace Stage

def load : Stage := ⟨utf8 "load"⟩
def scan : Stage := ⟨utf8 "scan"⟩
def classify : Stage := ⟨utf8 "classify"⟩

end Stage

/-- How a step stands. -/
structure Status where
  name : Bytes
  deriving DecidableEq, Repr, Inhabited

namespace Status

def queued : Status := ⟨utf8 "queued"⟩
def working : Status := ⟨utf8 "working"⟩
def done : Status := ⟨utf8 "done"⟩
def error : Status := ⟨utf8 "error"⟩

end Status

/-- What is told about the progress of a file, or of the whole run if the file is empty. -/
structure Event where
  file : Bytes
  stage : Stage
  status : Status
  error : Option Bytes := none
  deriving DecidableEq, Repr, Inhabited

end Marginalia
