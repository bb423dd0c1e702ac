import Marginalia.Config.Basic
import Marginalia.Toml.Document

/-!
# Configuration files

Settings are kept in a file named `docmark.toml`.  It is looked for in a directory and
in all directories above it; the nearest one counts.  A key that is not known is an
error, so that a misspelled setting does not go unnoticed.
-/

namespace Marginalia

set_option autoImplicit false

/-- A directory and all directories above it, nearest first, for a clean absolute path. -/
def Path.ancestors (dir : Bytes) : List Bytes :=
  let es := Path.cleanElements dir
  (List.range (es.length + 1)).reverse.map fun n => Path.ofElements true (es.take n)

namespace Config

/-- The name of the file. -/
def fileName : Bytes := utf8 "docmark.toml"

/-- Why there are no settings. -/
inductive Failure where
  | unknown (candidate : Bytes) (error : DiskError)
  | unreadable (path : Bytes)
  | unknownKeys (path : Bytes) (keys : List Toml.Key)
  | noExtensions (path : Bytes)
  | invalid (path : Bytes) (fault : Fault)

/-- The words for it. -/
def Failure.message : Failure → Bytes
  | .unknown candidate e =>
    utf8 "failed to stat " ++ quoted candidate ++ utf8 ": " ++ e.message
  | .unreadable path => path ++ utf8 ": failed to parse TOML"
  | .unknownKeys path keys =>
    path ++ utf8 ": unknown keys: " ++ Bytes.join (utf8 ", ") (keys.map Toml.Key.text)
  | .noExtensions path => path ++ utf8 ": [scan].extensions must not be empty"
  | .invalid path fault => path ++ utf8 ": " ++ fault.message

/-! ## Finding the file -/

/-- The first file of the given name that is there, in the order of the directories. -/
def findIn (look : Bytes → Except DiskError Entry) : (dirs : List Bytes) →
    Except Failure (Option Bytes)
  | [] => .ok none
  | dir :: dirs =>
    let candidate := Path.join [dir, fileName]
    match look candidate with
    | .ok _ => .ok (some candidate)
    | .error e => if e.cause = .notFound then findIn look dirs else .error (.unknown candidate e)

/-- The directory that a search starts with: that of the path itself, or the one that holds it if it is
a file. -/
def startDirectory (look : Bytes → Except DiskError Entry) (cwd start : Bytes) : Bytes :=
  let path := Path.absolute cwd (if start.isEmpty then utf8 "." else start)
  match look path with
  | .ok entry => if entry.isDir then path else Path.directory path
  | .error _ => path

/-- The nearest file, given what is known about each path. -/
def find (look : Bytes → Except DiskError Entry) (cwd start : Bytes) : Except Failure (Option Bytes) :=
  findIn look (Path.ancestors (startDirectory look cwd start))

/-! ## Reading the file -/

/-- Is a key the given name, without regard to case? -/
def isNamed (name : String) (key : Bytes) : Bool := Bytes.equalFold (utf8 name) key

def text? : Toml.Value → Option Bytes
  | .text s => some s
  | _ => none

def bool? : Toml.Value → Option Bool
  | .bool b => some b
  | _ => none

def int? : Toml.Value → Option Int
  | .integer n => some n
  | _ => none

def texts? : Toml.Value → Option (List Bytes)
  | .array items => items.mapM text?
  | _ => none

/-- A setting: its name and what a value does to the settings. -/
structure Setting where
  name : String
  apply : Config → Toml.Value → Option Config

/-- The settings by section. -/
def sections : List (String × List Setting) :=
  [("scan",
    [⟨"extensions", fun c v => (texts? v).map fun x => { c with extensions := x }⟩,
     ⟨"normalize_unicode", fun c v => (bool? v).map fun x => { c with normalize := x }⟩,
     ⟨"resolver", fun c v => (text? v).map fun x => { c with resolver := x }⟩,
     ⟨"owner_patterns", fun c v => (texts? v).map fun x => { c with patterns := x }⟩]),
   ("diagnostics",
    [⟨"max", fun c v => (int? v).map fun x => { c with maxDiagnostics := x }⟩,
     ⟨"ignore_info", fun c v => (bool? v).map fun x => { c with ignoreInfo := x }⟩,
     ⟨"warnings_as_errors", fun c v => (bool? v).map fun x => { c with warningsAsErrors := x }⟩]),
   ("cache",
    [⟨"enabled", fun c v => (bool? v).map fun x => { c with cacheEnabled := x }⟩,
     ⟨"dir", fun c v => (text? v).map fun x => { c with cacheDir := x }⟩])]

/-- Settings so far, and the keys that were used for them. -/
structure Reading where
  config : Config
  used : List Toml.Key := []

/-- Takes in the entries of a section. -/
def readSection (settings : List Setting) (name : Bytes) (r : Reading) : Toml.Table → Option Reading
  | [] => some r
  | (key, v) :: entries =>
    match settings.find? fun s => isNamed s.name key with
    | none => readSection settings name r entries
    | some s => do
      let config ← s.apply r.config v
      readSection settings name { config, used := [name, key] :: r.used } entries

/-- Takes in the sections of a file. -/
def readSections (r : Reading) : Toml.Table → Option Reading
  | [] => some r
  | (key, v) :: entries =>
    match sections.find? fun s => isNamed s.1 key with
    | none => readSections r entries
    | some (_, settings) =>
      match v with
      | .table inner => do
        let r ← readSection settings key { r with used := [key] :: r.used } inner
        readSections r entries
      | _ => none

/-- Does a file give extensions, in the usual spelling? -/
def givesExtensions (t : Toml.Table) : Bool :=
  match t.get? (utf8 "scan") with
  | some (.table inner) => (Toml.Table.get? inner (utf8 "extensions")).isSome
  | _ => false

/-- The settings of a file with the given content.  What it does not say is as usual. -/
def ofText (path text : Bytes) : Except Failure Config :=
  match Toml.Document.ofText? text with
  | none => .error (.unreadable path)
  | some doc =>
    match readSections { config := standard } doc.root with
    | none => .error (.unreadable path)
    | some r =>
      let unused := doc.keys.filter fun k => !r.used.contains k
      if !unused.isEmpty then .error (.unknownKeys path unused)
      else if givesExtensions doc.root && r.config.extensions.isEmpty then .error (.noExtensions path)
      else
        match { r.config with path }.validate with
        | .error fault => .error (.invalid path fault)
        | .ok c =>
          .ok (if c.cacheDir.isEmpty || Path.isAbsolute c.cacheDir then c
            else { c with cacheDir := Path.join [Path.directory path, c.cacheDir] })

/-- The settings of a file. -/
def load (disk : Disk) (path : Bytes) : Except Failure Config :=
  match disk.read path with
  | .error _ => .error (.unreadable path)
  | .ok text => ofText path text

/-- The settings that hold at a path: those of the nearest file, or the usual ones. -/
def discover (disk : Disk) (start : Bytes) : Except Failure Config :=
  match find disk.stat disk.cwd start with
  | .error e => .error e
  | .ok none => .ok standard
  | .ok (some path) => load disk path

end Config

end Marginalia
