import Marginalia.Disk
import Marginalia.Source.File

/-!
# Sets of source files

A file set numbers the files of a run in the order they are added and finds them
by path.  Adding a path again adds a new file; the path then leads to the newest
one, while the earlier file keeps its number and its text.

Which number a path leads to is kept in an index beside the files.  Paths are
cleaned before they are put into the index and before they are looked up.

Numbers of files and offsets in a text have 32 bits, and the program stops when it
is to add a text that has too many bytes, or one text too many (`FileSet.add?`).
-/

namespace Marginalia

set_option autoImplicit false

/-- The numbers that paths lead to, one for a path. -/
structure PathIndex where
  entries : List (Bytes × Nat) := []
  deriving Repr, Inhabited

namespace PathIndex

/-- The number that a path leads to. -/
def number? (index : PathIndex) (path : Bytes) : Option Nat :=
  (index.entries.find? fun e => e.1 = path).map Prod.snd

/-- Lets a path lead to a number, in place of the one that it led to. -/
def lead (index : PathIndex) (path : Bytes) (id : Nat) : PathIndex :=
  { entries := (index.entries.filter fun e => e.1 ≠ path) ++ [(path, id)] }

end PathIndex

/-- Files by number, the numbers that paths lead to, and the directory that relative paths are seen
from. -/
structure FileSet where
  files : List SourceFile := []
  index : PathIndex := {}
  base : Bytes := []
  deriving Repr, Inhabited

namespace FileSet

def size (s : FileSet) : Nat := s.files.length

/-- The base directory, which is the working directory if none was set. -/
def baseDir (s : FileSet) (cwd : Bytes) : Bytes := if s.base.isEmpty then cwd else s.base

/-- Adds a text under a path, which leads to it from now on; gives the number it gets. -/
def add (s : FileSet) (path content : Bytes) (flags : FileFlags) : Nat × FileSet :=
  let file : SourceFile := { id := s.size, path := Path.clean path, content, flags }
  (file.id, { s with files := s.files ++ [file], index := s.index.lead file.path file.id })

/-- There is room for a text if its offsets and the number that it gets have 32 bits. -/
def HasRoom (s : FileSet) (content : Bytes) : Prop :=
  content.length < UInt32.size ∧ s.size < UInt32.size

instance (s : FileSet) (content : Bytes) : Decidable (s.HasRoom content) :=
  inferInstanceAs (Decidable (_ ∧ _))

/-- Adds a text if there is room for it.  There is no result if there is none: the program stops. -/
def add? (s : FileSet) (path content : Bytes) (flags : FileFlags) : Option (Nat × FileSet) :=
  if s.HasRoom content then some (s.add path content flags) else none

/-- Adds a text that did not come from a disk. -/
def addVirtual (s : FileSet) (path content : Bytes) : Nat × FileSet :=
  s.add path content FileFlags.virtual

/-- Reads a file from a disk and adds what is kept of it. -/
def load (s : FileSet) (disk : Disk) (path : Bytes) : Except DiskError (Nat × FileSet) :=
  match disk.read path with
  | .ok raw => .ok (s.add path (loadContent raw).1 (loadContent raw).2)
  | .error e => .error e

/-- Reads a file from a disk and adds what is kept of it if there is room for that. -/
def load? (s : FileSet) (disk : Disk) (path : Bytes) : Except DiskError (Option (Nat × FileSet)) :=
  match disk.read path with
  | .ok raw => .ok (s.add? path (loadContent raw).1 (loadContent raw).2)
  | .error e => .error e

/-- The file with a number. -/
def get? (s : FileSet) (id : Nat) : Option SourceFile := s.files[id]?

/-- The newest file with a path. -/
def byPath? (s : FileSet) (path : Bytes) : Option SourceFile :=
  (s.index.number? (Path.clean path)).bind s.get?

/-- A path as it is shown: in the given style if it is the path of a file of the set, and as it is
otherwise. -/
def display (s : FileSet) (cwd : Bytes) (style : PathStyle) (path : Bytes) : Bytes :=
  match s.byPath? path with
  | some f => style.format cwd (s.baseDir cwd) f.path
  | none => path

/-! ## Room -/

theorem add?_eq_some_iff {s : FileSet} {path content : Bytes} {flags : FileFlags} :
    s.add? path content flags = some (s.add path content flags) ↔ s.HasRoom content := by
  rw [add?]
  split <;> simp [*]

end FileSet

end Marginalia
