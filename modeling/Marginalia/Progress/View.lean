import Marginalia.Progress.Basic
import Marginalia.Text.Decimal
import Marginalia.Text.Terminal

/-!
# The view of the progress

A title with a spinner, a row for each of the first files, a bar, and how many files
are finished.

The bar is drawn as it is before the first frame of its animation.  The events of a run
also give a share of the work that is done, by the stages of the files, and the frames
move the bar towards it as time goes by.  Neither the share nor the frames are modelled,
for they do not touch anything else in the view.  Colours are left out too.
-/

namespace Marginalia.Progress

set_option autoImplicit false

/-- How many files get a row of their own. -/
def maxListed : Nat := 20

/-- The width of the column of states. -/
def stateWidth : Nat := 12

/-- The pictures of the spinner. -/
def spinnerFrames : List Bytes := ["⣾ ", "⣽ ", "⣻ ", "⢿ ", "⡿ ", "⣟ ", "⣯ ", "⣷ "].map utf8

/-- The picture of the spinner at the moment. -/
def spinner (p : Progress) : Bytes := spinnerFrames[p.ticks % spinnerFrames.length]?.getD []

/-- A text as a block: tabs become four blanks, and lines are filled up to the width of the widest. -/
def block (s : Bytes) : Bytes :=
  let s := s.flatMap fun b => if b = Bytes.tab then utf8 "    " else [b]
  let lines := Bytes.lines s
  let width := (lines.map Bytes.terminalWidth).foldl max 0
  if lines.length ≤ 1 then s
  else
    Bytes.join (utf8 "\n")
      (lines.map fun line => line ++ List.replicate (width - line.terminalWidth) Bytes.space)

/-- Cuts a text that is too wide; three dots mark the cut. -/
def shorten (width : Nat) (s : Bytes) : Bytes :=
  if width = 0 || Bytes.cellWidth s ≤ width then s
  else if width ≤ 3 then Bytes.cutToWidth width [] s
  else Bytes.cutToWidth (width - 3) (utf8 "...") s

/-- The room for a name. -/
def nameWidth (p : Progress) : Nat := max (p.width - stateWidth - 4).toNat 20

/-- The title line. -/
def header (p : Progress) : Bytes :=
  let title := match p.state with
    | some s => p.title ++ utf8 " (" ++ s.name ++ utf8 ")"
    | none => p.title
  if p.done then utf8 "done: " ++ title else p.spinner ++ utf8 " " ++ title

/-- The row of a file. -/
def row (p : Progress) (f : FileProgress) : Bytes :=
  utf8 "  " ++ Decimal.padLeft stateWidth f.state.name ++ utf8 " " ++ shorten p.nameWidth f.path
    ++ (if f.error.isEmpty then [] else utf8 " " ++ block (shorten (p.nameWidth / 2) f.error))
    ++ utf8 "\n"

/-- The bar without its animation: it stays empty until the end, and then it is full. -/
def bar (p : Progress) : Bytes :=
  Bytes.times (p.width - 9).toNat (utf8 (if p.done then "█" else "░"))
    ++ utf8 (if p.done then " 100%" else "   0%")

/-- The view; there is none without files. -/
def view (p : Progress) : Bytes :=
  if p.files.isEmpty then []
  else
    let hidden := p.files.length - maxListed
    block p.header ++ utf8 "\n\n"
      ++ (p.files.take maxListed).flatMap p.row
      ++ (if hidden = 0 then []
        else utf8 "  " ++ Decimal.padLeft stateWidth [] ++ utf8 " … " ++ Decimal.nat hidden
          ++ utf8 " more files\n")
      ++ utf8 "\n" ++ p.bar
      ++ utf8 "\n  " ++ Decimal.nat p.finished ++ utf8 "/" ++ Decimal.nat p.files.length
      ++ utf8 " files"
      ++ (if p.failed = 0 then [] else utf8 ", " ++ Decimal.nat p.failed ++ utf8 " failed")
      ++ utf8 "\n"

end Marginalia.Progress
