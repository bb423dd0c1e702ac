import Marginalia.Path

/-!
# A disk as a value

Files, directories and symbolic links by their place, which is the list of
elements that leads to them from the root.  Finding a path walks its elements
one by one and follows the links it meets, as an operating system does, with a
bound on their number; it fails with one of a few causes.  Every operation is a
function of the disk, and those that write give back a new disk.
-/

namespace Marginalia

set_option autoImplicit false

/-- What stands at a place. -/
inductive Entry where
  | dir
  | file (content : Bytes)
  | link (target : Bytes)
  deriving DecidableEq, Repr, Inhabited

namespace Entry

def isDir : Entry → Bool
  | .dir => true
  | _ => false

end Entry

/-- Why an operation on a disk fails. -/
inductive DiskCause where
  | notFound
  | notDirectory
  | isDirectory
  | tooManyLinks
  | nameTooLong
  | invalid
  deriving DecidableEq, Repr, Inhabited

/-- The words for a cause. -/
def DiskCause.message : DiskCause → Bytes
  | .notFound => utf8 "no such file or directory"
  | .notDirectory => utf8 "not a directory"
  | .isDirectory => utf8 "is a directory"
  | .tooManyLinks => utf8 "too many levels of symbolic links"
  | .nameTooLong => utf8 "file name too long"
  | .invalid => utf8 "invalid argument"

/-- A failed operation: what was tried, on which path, and why it failed. -/
structure DiskError where
  operation : Bytes
  path : Bytes
  cause : DiskCause
  deriving DecidableEq, Repr, Inhabited

/-- The words for a failed operation. -/
def DiskError.message (e : DiskError) : Bytes :=
  e.operation ++ utf8 " " ++ e.path ++ utf8 ": " ++ e.cause.message

/-- The place of an entry: the elements that lead to it from the root. -/
abbrev Place := List Bytes

/-- A disk and the working directory.  The root is always a directory. -/
structure Disk where
  entries : List (Place × Entry) := []
  cwd : Bytes := [Bytes.slash]
  deriving Repr, Inhabited

namespace Disk

/-- What stands at a place. -/
def at? (d : Disk) (place : Place) : Option Entry :=
  if place = [] then some .dir else (d.entries.find? fun e => e.1 = place).map Prod.snd

/-- How many links are followed before finding a path is given up. -/
def linkBudget : Nat := 40

/-- Walks from a directory along elements.  A link at the very end is followed if `follow`. -/
def walk (d : Disk) (follow : Bool) : (budget : Nat) → (todo : List Bytes) → (here : Place) →
    Except DiskCause (Place × Entry)
  | _, [], here =>
    match d.at? here with
    | some e => .ok (here, e)
    | none => .error .notFound
  | budget, e :: todo, here =>
    if e = [] ∨ e = Path.here then walk d follow budget todo here
    else if e = Path.up then walk d follow budget todo here.dropLast
    else if 255 < e.length then .error .nameTooLong
    else
      match d.at? (here ++ [e]) with
      | none => .error .notFound
      | some .dir => walk d follow budget todo (here ++ [e])
      | some (.file content) =>
        if todo.isEmpty then .ok (here ++ [e], .file content) else .error .notDirectory
      | some (.link target) =>
        if todo.isEmpty && !follow then .ok (here ++ [e], .link target)
        else
          -- Nothing but a link makes the way longer, so the number of links bounds the walk.
          match budget with
          | 0 => .error .tooManyLinks
          | budget + 1 =>
            walk d follow budget (Path.elements target ++ todo)
              (if Path.isAbsolute target then [] else here)
termination_by budget todo => (budget, todo.length)

/-- The elements to walk along for a path, and the directory to start from. -/
def start (d : Disk) (path : Bytes) : Except DiskCause (List Bytes × Place) :=
  if path.isEmpty then .error .notFound
  else if path.contains 0 then .error .invalid
  else if 4096 ≤ path.length then .error .nameTooLong
  else .ok (Path.elements path, if Path.isAbsolute path then [] else Path.cleanElements d.cwd)

/-- The place a path leads to, and what stands there. -/
def find (d : Disk) (follow : Bool) (path : Bytes) : Except DiskCause (Place × Entry) :=
  match d.start path with
  | .ok (todo, here) => d.walk follow linkBudget todo here
  | .error cause => .error cause

/-- What a path leads to, links followed. -/
def stat (d : Disk) (path : Bytes) : Except DiskError Entry :=
  match d.find true path with
  | .ok (_, e) => .ok e
  | .error cause => .error ⟨utf8 "stat", path, cause⟩

/-- What stands at a path, a link at its end not followed. -/
def lstat (d : Disk) (path : Bytes) : Except DiskError Entry :=
  match d.find false path with
  | .ok (_, e) => .ok e
  | .error cause => .error ⟨utf8 "lstat", path, cause⟩

/-- The content of a file. -/
def read (d : Disk) (path : Bytes) : Except DiskError Bytes :=
  match d.find true path with
  | .ok (_, .file content) => .ok content
  | .ok (_, _) => .error ⟨utf8 "read", path, .isDirectory⟩
  | .error cause => .error ⟨utf8 "open", path, cause⟩

/-- The name of an entry directly below a place. -/
def childName? (parent place : Place) : Option Bytes :=
  match Path.below? parent place with
  | some [name] => some name
  | _ => none

/-- The names and entries directly below a place, sorted by name. -/
def children (d : Disk) (parent : Place) : List (Bytes × Entry) :=
  (d.entries.filterMap fun e => (childName? parent e.1).map (·, e.2)).mergeSort
    fun a b => !Bytes.before b.1 a.1

/-- The names and entries of a directory, sorted by name. -/
def list (d : Disk) (path : Bytes) : Except DiskError (List (Bytes × Entry)) :=
  match d.find true path with
  | .ok (place, .dir) => .ok (d.children place)
  | .ok (_, _) => .error ⟨utf8 "open", path, .notDirectory⟩
  | .error cause => .error ⟨utf8 "open", path, cause⟩

/-! ## Writing -/

/-- Puts an entry at a place, in place of what stands there. -/
def put (d : Disk) (place : Place) (e : Entry) : Disk :=
  { d with entries := (d.entries.filter fun x => x.1 ≠ place) ++ [(place, e)] }

/-- Makes a directory below `here` for each element, as far as there is none yet. -/
def makeBelow (d : Disk) : (todo : List Bytes) → (here : Place) → Except DiskCause Disk
  | [], _ => .ok d
  | e :: todo, here =>
    match d.walk true linkBudget [e] here with
    | .ok (place, .dir) => makeBelow d todo place
    | .ok (_, _) => .error .notDirectory
    | .error .notFound =>
      match d.at? (here ++ [e]) with
      | none => makeBelow (d.put (here ++ [e]) .dir) todo (here ++ [e])
      | some _ => .error .notFound
    | .error cause => .error cause

/-- Makes a directory and all its parents. -/
def makeDirs (d : Disk) (path : Bytes) : Except DiskError Disk :=
  let absolute := Path.absolute d.cwd path
  match d.makeBelow (Path.cleanElements absolute) [] with
  | .ok d => .ok d
  | .error cause => .error ⟨utf8 "mkdir", path, cause⟩

/-- Walks from a directory along elements to the place of a file that is to be written.  Only the last
element may be missing, and links are followed there too, so that a link to nothing leads to the
place that it names.  A slash at the end asks for a directory. -/
def walkToWrite (d : Disk) : (budget : Nat) → (todo : List Bytes) → (here : Place) →
    Except DiskCause Place
  | _, [], _ => .error .isDirectory
  | budget, e :: todo, here =>
    if e = [] ∨ e = Path.here then walkToWrite d budget todo here
    else if e = Path.up then walkToWrite d budget todo here.dropLast
    else if !todo.isEmpty && todo.all (· = []) then .error .isDirectory
    else if 255 < e.length then .error .nameTooLong
    else
      match d.at? (here ++ [e]) with
      | none => if todo.isEmpty then .ok (here ++ [e]) else .error .notFound
      | some .dir => walkToWrite d budget todo (here ++ [e])
      | some (.file _) => if todo.isEmpty then .ok (here ++ [e]) else .error .notDirectory
      | some (.link target) =>
        match budget with
        | 0 => .error .tooManyLinks
        | budget + 1 =>
          walkToWrite d budget (Path.elements target ++ todo)
            (if Path.isAbsolute target then [] else here)
termination_by budget todo => (budget, todo.length)

/-- Writes a file, in place of the one that is there; its directory must exist. -/
def write (d : Disk) (path content : Bytes) : Except DiskError Disk :=
  match (d.start path).bind fun s => d.walkToWrite linkBudget s.1 s.2 with
  | .ok place => .ok (d.put place (.file content))
  | .error cause => .error ⟨utf8 "open", path, cause⟩

/-- Makes a symbolic link; its directory must exist. -/
def makeLink (d : Disk) (path target : Bytes) : Disk :=
  match d.find true (Path.directory path) with
  | .ok (place, .dir) => d.put (place ++ [Path.base path]) (.link target)
  | _ => d

/-- Removes a place and everything below it. -/
def remove (d : Disk) (place : Place) : Disk :=
  { d with entries := d.entries.filter fun e => (Path.below? place e.1).isNone }

end Disk

end Marginalia
