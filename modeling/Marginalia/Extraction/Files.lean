import Marginalia.Disk
import Marginalia.Unicode.LowerCase

/-!
# The files of a directory

The files below a directory that have one of the given extensions, without regard
to case.  Hidden directories and those that hold dependencies are not entered; the
directory that is asked for always is.  Links are listed like files and not
followed.
-/

namespace Marginalia

set_option autoImplicit false

/-- The extensions of the files that are read if none are given. -/
def defaultExtensions : List Bytes :=
  [".go", ".ts", ".tsx", ".js", ".jsx", ".mjs", ".rs", ".c", ".h", ".cpp", ".hpp", ".java", ".kt",
   ".swift"].map utf8

/-- Directories that are never entered. -/
def skippedNames : List Bytes :=
  [".git", ".hg", ".svn", "node_modules", "vendor", "target"].map utf8

/-- Is a directory with this name left out? -/
def skipsDirectory (name : Bytes) : Bool :=
  skippedNames.contains name || Bytes.startsWith (utf8 ".") name

/-- Does a path have one of the extensions, or one of the default ones if none are given? -/
def hasExtension (extensions : List Bytes) (path : Bytes) : Bool :=
  ((if extensions.isEmpty then defaultExtensions else extensions).map Unicode.lower).contains
    (Unicode.lower (Path.extension path))

namespace Disk

/-- The wanted files below a directory.  The directories below it are read by their paths. -/
def filesBelow (d : Disk) (wanted : Bytes → Bool) :
    (depth : Nat) → (path : Bytes) → Except DiskError (List Bytes)
  | 0, _ => .ok []
  | depth + 1, path => do
    let children ← d.list path
    let files ← children.mapM fun child =>
      let below := Path.join [path, child.1]
      if child.2.isDir then
        if skipsDirectory child.1 then .ok [] else filesBelow d wanted depth below
      else .ok (if wanted below then [below] else [])
    return files.flatten

/-- The files with one of the extensions at or below a path, sorted.  Joining the first name cleans the
path, which may lead elsewhere; from there on each directory is an entry below another one, so none is
deeper than there are entries. -/
def listFiles (d : Disk) (path : Bytes) (extensions : List Bytes) : Except DiskError (List Bytes) :=
  match d.find false path with
  | .error cause => .error ⟨utf8 "lstat", path, cause⟩
  | .ok (_, .dir) =>
    (d.filesBelow (hasExtension extensions) (d.entries.length + 2) path).map fun files =>
      files.mergeSort fun a b => !Bytes.before b a
  | .ok (_, _) => .ok (if hasExtension extensions path then [path] else [])

end Disk

end Marginalia
