import Marginalia.Marker.Example

/-!
# Markers

A comment may open with a marker, which is two signs directly after the opening
delimiter of a line or a block comment: two plus signs for a description, two
question marks for examples, two minus signs for a tech-debt note.
`Marker.ofText` says which marker a comment opens with and what it carries; a
comment without one is plain.
-/

namespace Marginalia

set_option autoImplicit false

/-- What a comment's marker says it is. -/
inductive Marker where
  /-- the text of a description -/
  | description (value : Bytes)
  /-- the examples, one for the line form, one per line that is not blank for the block form -/
  | example_ (examples : List ExampleText)
  /-- the reason of a tech-debt note; the line form keeps it as written -/
  | techDebt (reason : Bytes)
  /-- a comment without a marker -/
  | plain
  deriving DecidableEq, Repr, Inhabited

namespace Marker

/-! ## How markers are written -/

def lineDescription : Bytes := utf8 "//++"
def blockDescription : Bytes := utf8 "/*++"
def lineExample : Bytes := utf8 "//??"
def blockExample : Bytes := utf8 "/*??"
def lineDebt : Bytes := utf8 "//--"
def blockDebt : Bytes := utf8 "/*--"
def blockClose : Bytes := utf8 "*/"

/-- A text without one block marker at its beginning, if it starts with one. -/
def withoutOpener (text : Bytes) : Bytes :=
  match Bytes.after? blockDescription text with
  | some rest => rest
  | none =>
    match Bytes.after? blockExample text with
    | some rest => rest
    | none => (Bytes.after? blockDebt text).getD text

/-- The body of a block comment: without one block marker, without one closing delimiter, and
trimmed. -/
def blockBody (fullText : Bytes) : Bytes :=
  (Bytes.dropSuffix blockClose (withoutOpener fullText.trim)).trim

/-- The examples of a block: one per line that is not blank. -/
def blockExamples (body : Bytes) : List ExampleText :=
  ((body.lines.map Bytes.trim).filter fun line => !line.isEmpty).map ExampleText.ofText

/-- The marker a comment opens with, once white space around it is removed. -/
def ofText (fullText : Bytes) : Marker :=
  let text := fullText.trim
  match Bytes.after? lineDescription text with
  | some rest => .description rest.trim
  | none =>
  if Bytes.startsWith blockDescription text then .description (blockBody text) else
  match Bytes.after? lineExample text with
  | some rest => .example_ [ExampleText.ofText rest.trim]
  | none =>
  if Bytes.startsWith blockExample text then .example_ (blockExamples (blockBody text)) else
  match Bytes.after? lineDebt text with
  | some rest => .techDebt rest
  | none =>
  if Bytes.startsWith blockDebt text then .techDebt (blockBody text) else .plain

end Marker

end Marginalia
