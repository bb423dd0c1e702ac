import Marginalia.Outline.Grammar
import Marginalia.Text.Decimal

/-!
# What the parser of Go says

Whether a text is a file of Go is decided by the grammar (`Outline.ofText?`).  What is
wrong with a text that is not one is told by the parser of the language, which is not
part of this project.  Its mistakes are a parameter, `GoParser`: a class that the
definitions which show them carry along, with what they rely on as its laws.

The texts that are made from mistakes are defined here: the place of a mistake is
written before its message, and of several mistakes only the first is shown.
-/

namespace Marginalia

set_option autoImplicit false

/-- A mistake in a text: the file that it is in, line and column, both from one on, and what is
wrong.  A line of zero stands for a place that is not known. -/
structure GoMistake where
  file : Bytes
  line : Nat
  column : Nat
  message : Bytes
  deriving DecidableEq, Repr

namespace GoMistake

/-- The place of a mistake, as far as it is known. -/
def place (m : GoMistake) : Bytes :=
  m.file ++
    if 0 < m.line then
      (if m.file.isEmpty then [] else utf8 ":") ++ Decimal.nat m.line
        ++ (if m.column = 0 then [] else utf8 ":" ++ Decimal.nat m.column)
    else []

/-- A mistake in words. -/
def text (m : GoMistake) : Bytes :=
  if m.place.isEmpty then m.message else m.place ++ utf8 ": " ++ m.message

/-- Mistakes in words: the first one, and how many there are besides. -/
def report : List GoMistake → Bytes
  | [] => utf8 "no errors"
  | [m] => m.text
  | m :: more => m.text ++ utf8 " (and " ++ Decimal.nat more.length ++ utf8 " more errors)"

theorem prefix_text {m : GoMistake} (named : m.file ≠ []) : m.file ++ utf8 ":" <+: m.text := by
  have placed : m.place.isEmpty = false :=
    List.isEmpty_eq_false_iff.2 (List.append_ne_nil_of_left_ne_nil named _)
  rw [text, placed, if_neg Bool.false_ne_true, place]
  split
  · rw [List.isEmpty_eq_false_iff.2 named, if_neg Bool.false_ne_true]
    simp only [List.append_assoc, List.prefix_append_right_inj]
    exact List.prefix_append _ _
  · rw [List.append_nil, List.append_assoc, List.prefix_append_right_inj]
    exact ⟨utf8 " " ++ m.message, rfl⟩

/-- Mistakes in a file are told with the path of the file. -/
theorem prefix_report {path : Bytes} {mistakes : List GoMistake} (named : path ≠ [])
    (some : mistakes ≠ []) (inFile : ∀ m ∈ mistakes, m.file = path) :
    path ++ utf8 ":" <+: report mistakes := by
  obtain ⟨m, more, rfl⟩ := List.exists_cons_of_ne_nil some
  have file := inFile m List.mem_cons_self
  have first := prefix_text (m := m) (file ▸ named)
  rw [file] at first
  cases more with
  | nil => exact first
  | cons m' more =>
    rw [report, List.append_assoc, List.append_assoc]
    · exact first.trans (List.prefix_append _ _)
    · simp

end GoMistake

/-- Does a text have a comment that changes the places that are told from there on? -/
def HasLineDirective (content : Bytes) : Prop :=
  utf8 "//line " <:+: content ∨ utf8 "/*line " <:+: content

/-- The parser of Go: the mistakes that it finds in a text under a path, in the order in which it
lists them. -/
class GoParser where
  mistakes : (path content : Bytes) → List GoMistake
  /-- A text that does not follow the grammar has a mistake. -/
  mistakes_ne_nil : ∀ path content, Outline.ofText? content = none → mistakes path content ≠ []
  /-- Mistakes are in the file with the given path, as long as no comment says otherwise. -/
  file_of_mistake : ∀ path content, ¬ HasLineDirective content →
    ∀ m ∈ mistakes path content, m.file = path

/-- What stands where a text should begin with the word `package`, in the words of the parser. -/
def GoMistake.found (content : Bytes) (t : Outline.Token) : Bytes :=
  let text := (content.drop t.start).take (t.stop - t.start)
  match t.kind with
  | .name _ | .literal _ => text
  | .eof => utf8 "'EOF'"
  | .keyword _ | .sign _ | .semicolon => utf8 "'" ++ text ++ utf8 "'"

/-- The first mistake in a text of one line that does not begin with the word `package`, and also the
only one, because no line is told to have two.  Of other texts that are not files of Go no more is known
than that. -/
def GoMistake.first (path content : Bytes) : GoMistake :=
  let unknown : GoMistake := ⟨path, 0, 0, utf8 "no file of Go"⟩
  match Outline.tokens? content with
  | some (t :: _) =>
    if content.contains Bytes.newline ∨ t.kind = .keyword "package" then unknown
    else ⟨path, 1, t.start + 1, utf8 "expected 'package', found " ++ found content t⟩
  | _ => unknown

example : (GoMistake.first (utf8 "a.go") (utf8 "// note")).text
    = utf8 "a.go:1:8: expected 'package', found 'EOF'" := by decide +kernel

/-- The parser that the program is run with here.  Results for all texts are about every parser. -/
instance GoParser.firstMistake : GoParser where
  mistakes path content :=
    match Outline.ofText? content with
    | some _ => []
    | none => [GoMistake.first path content]
  mistakes_ne_nil path content unread := by simp [unread]
  file_of_mistake path content _ m member := by
    cases read : Outline.ofText? content with
    | some decls => simp [read] at member
    | none =>
      simp only [read, List.mem_singleton] at member
      rw [member]
      simp only [GoMistake.first]
      split
      · split <;> rfl
      · rfl

end Marginalia
