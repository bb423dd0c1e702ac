import Marginalia.Diagnostic.Basic
import Marginalia.Text.Space

/-!
# The short listing

Diagnostics of several files, one line each, sorted by path, line and column.
Entries with the same place keep the order in which they came, so the listing is
stable.  A message is put on one line whatever line ends it contains.
-/

namespace Marginalia

set_option autoImplicit false

/-- A diagnostic with the path of its file. -/
structure Located where
  path : Bytes
  diagnostic : Diagnostic
  deriving DecidableEq, Repr, Inhabited

namespace Listing

/-- A path without any `./` at its beginning. -/
def bare : Bytes → Bytes
  | 46 :: 47 :: rest => bare rest
  | path => path

/-- A message with a blank in place of each line end, which is `\r\n`, `\r` or `\n`. -/
def oneLine : Bytes → Bytes
  | 13 :: 10 :: rest => 32 :: oneLine rest
  | 13 :: rest => 32 :: oneLine rest
  | 10 :: rest => 32 :: oneLine rest
  | b :: rest => b :: oneLine rest
  | [] => []

/-- Does an entry stand before, or at the same place as, another? -/
def notAfter (a b : Located) : Bool :=
  if a.path ≠ b.path then Bytes.before a.path b.path
  else if a.diagnostic.line ≠ b.diagnostic.line then a.diagnostic.line < b.diagnostic.line
  else a.diagnostic.columnOrZero ≤ b.diagnostic.columnOrZero

/-- The line of one entry. -/
def line (e : Located) : Bytes :=
  e.diagnostic.severity.name ++ utf8 " " ++ e.diagnostic.code.display ++ utf8 " " ++ e.path
    ++ utf8 ":" ++ Decimal.int e.diagnostic.line ++ utf8 ":"
    ++ Decimal.int e.diagnostic.columnOrZero ++ utf8 " "
    ++ Bytes.trim (oneLine e.diagnostic.message)
    ++ (match e.diagnostic.owner with
        | some owner => utf8 " (in " ++ owner ++ utf8 ")"
        | none => [])

/-- The entries in the order of the listing. -/
def sorted (entries : List Located) : List Located :=
  (entries.map fun e => { e with path := bare e.path }).mergeSort notAfter

/-- The listing: one line per entry, separated by newlines. -/
def render (entries : List Located) : Bytes := Bytes.join (utf8 "\n") ((sorted entries).map line)

end Listing

end Marginalia
