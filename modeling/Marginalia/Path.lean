import Marginalia.Text.Bytes

/-!
# Paths

A path is a text whose elements are separated by slashes.  Cleaning a path is a
matter of its elements: empty elements and single dots disappear, and a double
dot takes away the element before it, or disappears at the root.  A clean path is
therefore given by whether it starts at the root and by a list of elements.

Nothing here looks at a disk: a symbolic link is an element like any other.
-/

namespace Marginalia.Path

set_option autoImplicit false

open Bytes (slash)

/-- The element that stands for the directory itself. -/
def here : Bytes := [46]

/-- The element that stands for the parent directory. -/
def up : Bytes := [46, 46]

def isAbsolute : Bytes → Bool
  | b :: _ => b = slash
  | [] => false

/-- The elements of a path as written. -/
def elements (path : Bytes) : List Bytes := Bytes.splitAtByte slash path

/-- Adds an element to the clean elements before it, which are held last first. -/
def push (rooted : Bool) (stack : List Bytes) (e : Bytes) : List Bytes :=
  if e = [] ∨ e = here then stack
  else if e = up then
    match stack with
    | [] => if rooted then [] else [up]
    | top :: rest => if top = up then up :: top :: rest else rest
  else e :: stack

/-- The clean elements of a path. -/
def cleanElements (path : Bytes) : List Bytes :=
  ((elements path).foldl (push (isAbsolute path)) []).reverse

/-- Writes a clean path from its elements. -/
def ofElements (rooted : Bool) (es : List Bytes) : Bytes :=
  if rooted then slash :: Bytes.join [slash] es
  else if es.isEmpty then here
  else Bytes.join [slash] es

/-- The shortest path that denotes the same place, by its elements alone. -/
def clean (path : Bytes) : Bytes := ofElements (isAbsolute path) (cleanElements path)

/-- Joins paths with slashes and cleans the result; empty paths are left out. -/
def join (paths : List Bytes) : Bytes :=
  match paths.filter fun p => !p.isEmpty with
  | [] => []
  | ps => clean (Bytes.join [slash] ps)

/-- The part of a path up to and with its last slash, and the part after it. -/
def splitLast (path : Bytes) : Bytes × Bytes :=
  let tail := (path.reverse.takeWhile fun b => b ≠ slash).reverse
  (path.take (path.length - tail.length), tail)

def directory (path : Bytes) : Bytes := clean (splitLast path).1

/-- The last element of a path, slashes at its end not counting. -/
def base (path : Bytes) : Bytes :=
  if path.isEmpty then here
  else
    let trimmed := (path.reverse.dropWhile fun b => b = slash).reverse
    if trimmed.isEmpty then [slash] else (splitLast trimmed).2

/-- What follows the last dot of the last element, the dot included. -/
def extension (path : Bytes) : Bytes :=
  let name := (splitLast path).2
  let ext := (name.reverse.takeWhile fun b => b ≠ Bytes.dot).reverse
  if ext.length < name.length then Bytes.dot :: ext else []

/-- The clean absolute form of a path, seen from the working directory. -/
def absolute (cwd path : Bytes) : Bytes := if isAbsolute path then clean path else join [cwd, path]

/-- The elements of `path` below `base`, if it is `base` itself or below it. -/
def below? : (base path : List Bytes) → Option (List Bytes)
  | [], path => some path
  | _ :: _, [] => none
  | b :: base, p :: path => if b = p then below? base path else none

/-! ## Relative paths -/

/-- What is left of two lists of elements without their common beginning. -/
def parted : (base path : List Bytes) → List Bytes × List Bytes
  | b :: base, p :: path => if b = p then parted base path else (b :: base, p :: path)
  | base, path => (base, path)

/-- The path that leads from `base` to `target` by their elements alone: up from each element that only
`base` has, then down.  There is none if only one of the two starts at the root, or if `base` goes up
from a directory whose name is not known. -/
def way? (base target : Bytes) : Option Bytes :=
  let (above, below) := parted (cleanElements base) (cleanElements target)
  if isAbsolute base ≠ isAbsolute target ∨ above.head? = some up then none
  else some (ofElements false (above.map (fun _ => up) ++ below))

/-- Does a path start with a step to the parent directory? -/
def climbs (path : Bytes) : Bool := path = up || Bytes.startsWith (up ++ [slash]) path

/-- The path relative to `base`, both seen from the working directory; the absolute form if the way
from `base` goes up first.  There is none if there is no way. -/
def relative? (cwd path base : Bytes) : Option Bytes :=
  let target := absolute cwd path
  (way? (absolute cwd base) target).map fun way => if climbs way then clean target else clean way

/-- The path relative to `base`, or the path as it is if there is none. -/
def relative (cwd path base : Bytes) : Bytes := (relative? cwd path base).getD path

end Marginalia.Path
