import Marginalia.Digest.Sha256
import Marginalia.Path
import Marginalia.Source.Position
import Marginalia.Text.Quoted
import Marginalia.Text.Space
import Marginalia.Unicode.LowerCase

/-!
# Source files

A source file is a text with a path and a number.  When a file is loaded, a byte
order mark at its beginning is taken away and every carriage return that stands
directly before a newline; the flags remember whether that happened.  Offsets and
lines refer to what remains.
-/

namespace Marginalia

set_option autoImplicit false

/-! ## Normalising what was read -/

/-- What had to be done to a text when it was loaded, as bits. -/
structure FileFlags where
  bits : UInt8
  deriving DecidableEq, Repr, Inhabited

namespace FileFlags

/-- The text did not come from a disk. -/
def virtual : FileFlags := ⟨1⟩

/-- A byte order mark was removed. -/
def hadMark : FileFlags := ⟨2⟩

/-- Carriage returns were removed. -/
def hadReturns : FileFlags := ⟨4⟩

/-- Flags for what was removed. -/
def ofLoad (mark returns : Bool) : FileFlags :=
  ⟨(if mark then hadMark.bits else 0) ||| (if returns then hadReturns.bits else 0)⟩

end FileFlags

/-- Removes a byte order mark from the beginning; tells whether there was one. -/
def removeMark : Bytes → Bytes × Bool
  | 0xEF :: 0xBB :: 0xBF :: rest => (rest, true)
  | content => (content, false)

/-- Removes every carriage return directly before a newline; tells whether there was one. -/
def removeReturns : Bytes → Bytes × Bool
  | 13 :: 10 :: rest => (10 :: (removeReturns rest).1, true)
  | b :: rest => (b :: (removeReturns rest).1, (removeReturns rest).2)
  | [] => ([], false)

/-- The text that is kept of a file's content, with its flags. -/
def loadContent (raw : Bytes) : Bytes × FileFlags :=
  let (content, mark) := removeMark raw
  let (content, returns) := removeReturns content
  (content, .ofLoad mark returns)

/-! ## Files -/

/-- A source text with its number and its path. -/
structure SourceFile where
  id : Nat
  path : Bytes
  content : Bytes
  flags : FileFlags
  deriving DecidableEq, Repr, Inhabited

namespace SourceFile

/-- The offsets of the newlines. -/
def index (f : SourceFile) : List Nat := lineIndex f.content

def hash (f : SourceFile) : Bytes := Sha256.digest f.content

def position (f : SourceFile) (offset : UInt32) : Position := Position.ofOffset f.index offset

def line (f : SourceFile) (number : UInt32) : Bytes := lineText f.index f.content number.toNat

end SourceFile

/-! ## Showing paths -/

/-- How a path is shown. -/
inductive PathStyle where
  /-- as it is, but a long absolute path only by its last element -/
  | auto
  | absolute
  | relative
  | basename
  /-- as it is -/
  | verbatim
  deriving DecidableEq, Repr, Inhabited

namespace PathStyle

/-- Absolute paths of this length or more are shortened. -/
def longPath : Nat := 40

/-- The style with the given name, without regard to case and surrounding white space. -/
def parse? (text : Bytes) : Option PathStyle :=
  let name := Unicode.lower text.trim
  if name = [] ∨ name = utf8 "auto" then some .auto
  else if name = utf8 "absolute" ∨ name = utf8 "abs" then some .absolute
  else if name = utf8 "relative" ∨ name = utf8 "rel" then some .relative
  else if name = utf8 "basename" ∨ name = utf8 "base" then some .basename
  else none

/-- What is said of a text that names no style. -/
def invalidMessage (text : Bytes) : Bytes :=
  utf8 "invalid path mode " ++ quoted text ++ utf8 " (expected auto|absolute|relative|basename)"

def name : PathStyle → Bytes
  | .auto => utf8 "auto"
  | .absolute => utf8 "absolute"
  | .relative => utf8 "relative"
  | .basename => utf8 "basename"
  | .verbatim => utf8 "verbatim"

/-- A path in a style, relative paths being seen from `base`, or from the working directory if that
is empty. -/
def format (style : PathStyle) (cwd base path : Bytes) : Bytes :=
  match style with
  | .absolute => Path.absolute cwd path
  | .relative => Path.relative cwd path (if base.isEmpty then cwd else base)
  | .basename => Path.base path
  | .auto => if longPath ≤ path.length && Path.isAbsolute path then Path.base path else path
  | .verbatim => path

end PathStyle

end Marginalia
