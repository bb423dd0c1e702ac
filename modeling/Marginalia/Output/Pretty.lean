import Marginalia.Output.Basic
import Marginalia.Output.Style
import Marginalia.Text.Cluster

/-!
# Diagnostics with their source

Each diagnostic with a header, the line it is about and perhaps lines above it, a
mark under the comment it comes from, and a suggestion if that is wanted.  The mark
is placed by the width of characters in cells.
-/

namespace Marginalia

set_option autoImplicit false

/-- How diagnostics are printed. -/
structure PrettyOptions where
  color : Bool := false
  /-- how many lines to show above that of the diagnostic -/
  context : Int := 0
  style : PathStyle := .auto
  /-- print suggestions -/
  suggest : Bool := false
  deriving DecidableEq, Repr, Inhabited

namespace Pretty

/-- The style of a severity. -/
def severityStyle (s : Severity) : Style :=
  if s = .error then .redBold else if s = .warn then .yellowBold else .cyanBold

/-- The severity in capitals. -/
def severityName (s : Severity) : Bytes := s.name.map Bytes.upperAscii

/-- The first line of a diagnostic. -/
def header (color : Bool) (path : Bytes) (d : Diagnostic) : Bytes :=
  Style.bold.paint color (path ++ utf8 ":" ++ Decimal.int d.line ++ utf8 ":"
      ++ Decimal.int d.columnOrZero)
    ++ utf8 ": " ++ (severityStyle d.severity).paint color (severityName d.severity)
    ++ utf8 " " ++ d.code.display ++ utf8 ": " ++ d.message
    ++ (match d.owner with
        | some owner => utf8 " (in " ++ owner ++ utf8 ")"
        | none => [])
    ++ utf8 "\n"

/-- The width of the first line of the comment that a diagnostic comes from, and one if there is no
such comment. -/
def markWidth (comments : List Comment) (d : Diagnostic) : Nat :=
  match d.column with
  | none => 1
  | some column =>
    let widths := (comments.filter fun c => c.line = d.line ∧ c.column = column).map fun c =>
      Bytes.cellWidth (c.fullText.takeWhile (· != Bytes.newline))
    (widths.find? (0 < ·)).getD 1

/-- Blanks as wide as a text; tabs stay. -/
def padding (text : Bytes) : Bytes :=
  (Utf8.decode text).flatMap fun p =>
    if p.toChar = '\t' then [Bytes.tab]
    else List.replicate (Unicode.cells p.toChar.toNat) Bytes.space

/-- A count of lines: the number that is next, and how many are passed. -/
structure LineCount where
  next : UInt32
  passed : Nat := 0

/-- How many lines are passed when `last` is.  They are counted in 32 bits, where nothing comes after
the greatest number but zero: it is never passed, and then there is no result. -/
def LineCount.upTo (last : UInt32) (c : LineCount) : Option Nat :=
  if c.next ≤ last then { next := c.next + 1, passed := c.passed + 1 : LineCount } |>.upTo last
  else some c.passed
partial_fixpoint

/-- The numbers of the lines from `first` to `last`, if counting them comes to an end. -/
def lineNumbers? (first last : UInt32) : Option (List UInt32) :=
  (LineCount.upTo last { next := first }).map fun n => (List.range n).map fun i => (first.toNat + i).toUInt32

/-- The first line that is shown for a line. -/
def firstShown (line : UInt32) (context : Int) : UInt32 :=
  if context ≤ 0 then line
  else if context < line.toNat then (line.toNat - context.toNat).toUInt32
  else 1

/-- A line of the source with its number. -/
def sourceLine (color : Bool) (file : SourceFile) (n : UInt32) : Bytes :=
  Style.blue.paint color (Decimal.padLeft 4 (Decimal.nat n.toNat) ++ utf8 " |") ++ utf8 " "
    ++ file.line n ++ utf8 "\n"

/-- The mark under a line: a caret in a column, counted in bytes, and a wave of a width. -/
def markLine (color : Bool) (text : Bytes) (column : Int) (width : Nat) : Bytes :=
  let before := text.take (column - 1).toNat
  let rest := Bytes.cellWidth (text.drop before.length)
  let width := if 0 < rest then min (max width 1) rest else max width 1
  Style.blue.paint color (utf8 "     |") ++ utf8 " " ++ padding before
    ++ Style.magentaBold.paint color (utf8 "^" ++ List.replicate (width - 1) 126) ++ utf8 "\n"

/-- The lines of the source for a diagnostic, and the mark, if printing them comes to an end. -/
def context? (o : PrettyOptions) (file : SourceFile) (line column : Int) (width : Nat) : Option Bytes :=
  if line ≤ 0 ∨ (UInt32.size : Int) ≤ line then some []
  else
    let n := line.toNat.toUInt32
    (lineNumbers? (firstShown n o.context) n).map fun numbers =>
      numbers.flatMap (sourceLine o.color file) ++ markLine o.color (file.line n) column width

/-- The lines of the source for a diagnostic, and the mark.  Where `context?` has no value, neither has
a program that asks for them; in statements the empty text stands for it. -/
def context (o : PrettyOptions) (file : SourceFile) (line column : Int) (width : Nat) : Bytes :=
  (context? o file line column width).getD []

/-- A diagnostic. -/
def diagnostic (o : PrettyOptions) (path : Bytes) (file : Option SourceFile) (comments : List Comment)
    (d : Diagnostic) : Bytes :=
  header o.color path d
    ++ (match file with
        | some f => context o f d.line d.columnOrZero (markWidth comments d)
        | none => [])
    ++ (match d.suggestion with
        | some text =>
          if o.suggest then
            utf8 "     " ++ Style.blue.paint o.color (utf8 "=") ++ utf8 " "
              ++ Style.green.paint o.color (utf8 "help: " ++ text) ++ utf8 "\n"
          else []
        | none => [])

/-- The diagnostics of a file, or why it could not be read. -/
def file (o : PrettyOptions) (scene : Scene) (r : FileResult) : Bytes :=
  let path := scene.display o.style r.path
  match r.error with
  | some e =>
    Style.bold.paint o.color path ++ utf8 ": " ++ Style.redBold.paint o.color (utf8 "ERROR")
      ++ utf8 " " ++ e ++ utf8 "\n"
  | none => r.diagnostics.flatMap (diagnostic o path (scene.file? r.path) r.comments)

end Pretty

/-- The diagnostics of all files. -/
def printPretty (o : PrettyOptions) (scene : Scene) (results : List FileResult) : Bytes :=
  results.flatMap (Pretty.file o scene)

end Marginalia
