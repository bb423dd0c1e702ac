import Marginalia.Extraction.Basic
import Marginalia.Text.Quoted

/-!
# Progress

What is known about the progress of a run over many files, kept up to date by the
events that the run tells about.  Each file has a state, and the run as a whole may
have one.  An event about a file that is not listed changes nothing.
-/

namespace Marginalia

set_option autoImplicit false

/-- Whether progress is shown. -/
inductive ProgressMode where
  | auto
  | on
  | off
  deriving DecidableEq, Repr, Inhabited

namespace ProgressMode

def name : ProgressMode → Bytes
  | .auto => utf8 "auto"
  | .on => utf8 "on"
  | .off => utf8 "off"

/-- Reads a mode without regard to case and surrounding blanks; an empty text is the default. -/
def parse? (text : Bytes) : Option ProgressMode :=
  let t := Bytes.trim (Unicode.lower text)
  if t.isEmpty then some .auto else [auto, on, off].find? fun m => m.name = t

/-- What is said about a text that is not a mode. -/
def invalidMessage (text : Bytes) : Bytes :=
  utf8 "invalid --ui value " ++ quoted text ++ utf8 " (expected auto|on|off)"

/-- Is progress shown?  By default only on a terminal. -/
def shows (m : ProgressMode) (terminal : Bool) : Bool :=
  match m with
  | .on => true
  | .off => false
  | .auto => terminal

end ProgressMode

/-- The state of a file. -/
inductive FileState where
  | queued
  | loading
  | scanning
  | classifying
  | done
  | error
  deriving DecidableEq, Repr, Inhabited

namespace FileState

def name : FileState → Bytes
  | .queued => utf8 "queued"
  | .loading => utf8 "loading"
  | .scanning => utf8 "scanning"
  | .classifying => utf8 "classifying"
  | .done => utf8 "done"
  | .error => utf8 "error"

/-- Will nothing more happen to the file? -/
def finished (s : FileState) : Bool := s = .done || s = .error

/-- The state that a status in a stage stands for, if it is known. -/
def ofStatus? (stage : Stage) (status : Status) : Option FileState :=
  if status = .queued then some .queued
  else if status = .done then some .done
  else if status = .error then some .error
  else if status = .working then
    if stage = .load then some .loading
    else if stage = .scan then some .scanning
    else if stage = .classify then some .classifying
    else none
  else none

end FileState

/-- A file of the list. -/
structure FileProgress where
  path : Bytes
  state : FileState := .queued
  error : Bytes := []
  deriving DecidableEq, Repr, Inhabited

/-- The progress of a run, and how it is shown at the moment. -/
structure Progress where
  title : Bytes
  files : List FileProgress
  /-- the state of the run as a whole -/
  state : Option FileState := none
  /-- the width of the window -/
  width : Int := 80
  /-- how often the spinner has moved on -/
  ticks : Nat := 0
  done : Bool := false
  deriving DecidableEq, Repr, Inhabited

namespace FileProgress

/-- What an event makes of its file. -/
def apply (f : FileProgress) (e : Event) : FileProgress where
  path := f.path
  state := (FileState.ofStatus? e.stage e.status).getD f.state
  error := e.error.getD f.error

end FileProgress

namespace Progress

/-- A run that is about to start. -/
def start (title : Bytes) (paths : List Bytes) : Progress where
  title := title
  files := paths.map fun path => { path }

/-- Changes the last file with a path. -/
def updateLast (path : Bytes) (f : FileProgress → FileProgress) (files : List FileProgress) :
    List FileProgress :=
  match files.reverse.span fun x => x.path ≠ path with
  | (later, x :: earlier) => earlier.reverse ++ f x :: later.reverse
  | (_, []) => files

/-- What an event makes of the progress. -/
def apply (p : Progress) (e : Event) : Progress :=
  if e.file.isEmpty then { p with state := (FileState.ofStatus? e.stage e.status).or p.state }
  else { p with files := updateLast e.file (·.apply e) p.files }

/-- The run has ended. -/
def close (p : Progress) : Progress := { p with done := true }

/-- The window has a new width, if it is one. -/
def resize (p : Progress) (width : Int) : Progress := if 0 < width then { p with width } else p

/-- The spinner moves on, as long as the run goes on. -/
def tick (p : Progress) : Progress := if p.done then p else { p with ticks := p.ticks + 1 }

/-- How many files are finished. -/
def finished (p : Progress) : Nat := p.files.countP fun f => f.state.finished

/-- How many files could not be read. -/
def failed (p : Progress) : Nat := p.files.countP fun f => f.state = .error

end Progress

end Marginalia
