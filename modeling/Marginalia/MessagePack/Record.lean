import Marginalia.Comment
import Marginalia.MessagePack.Read
import Marginalia.MessagePack.Write
import Marginalia.Notes.Basic

/-!
# Records in MessagePack

Comments, notes and diagnostics as maps from the names of their fields.  What may
be missing is left out when it is; kinds and severities are bytes that hold their
names.  Reading takes absent fields as empty ones, and refuses a severity without
a known name.
-/

namespace Marginalia

set_option autoImplicit false

open MessagePack

/-! ## Writing -/

/-- A comment. -/
def Comment.pack (c : Comment) : Bytes := MessagePack.map
  [("kind", some (bin c.kind.name)), ("text", some (str c.text)), ("full_text", some (str c.fullText)),
   ("start", some (int c.start)), ("end", some (int c.stop)), ("line", some (int c.line)),
   ("column", some (int c.column)), ("node_id", c.owner.map str)]

/-- An example. -/
def Example.pack (e : Example) : Bytes := MessagePack.map
  [("code", some (str e.code)), ("expected", e.expected.map str), ("line", some (int e.line)),
   ("raw", some (str e.raw)), ("function_name", e.owner.map str)]

/-- A tech-debt note. -/
def TechDebt.pack (d : TechDebt) : Bytes := MessagePack.map
  [("line", some (int d.line)), ("reason", some (str d.reason)), ("raw", some (str d.raw)),
   ("function_name", d.owner.map str)]

/-- A diagnostic. -/
def Diagnostic.pack (d : Diagnostic) : Bytes := MessagePack.map
  [("code", some (str d.code.text)), ("category", some (str d.category.name)),
   ("message", some (str d.message)), ("line", some (int d.line)), ("column", d.column.map int),
   ("function_name", d.owner.map str), ("severity", some (bin d.severity.name)),
   ("suggestion", d.suggestion.map str)]

/-- A list; one without elements is written as absent unless `made`. -/
def MessagePack.list {α : Type} (made : Bool) (write : α → Bytes) (xs : List α) : Bytes :=
  if xs.isEmpty && !made then nil else array (xs.map write)

/-- Notes; lists without elements are absent unless the notes were `made` from comments. -/
def Notes.pack (made : Bool) (n : Notes) : Bytes := MessagePack.map
  [("description", n.description.map str),
   ("examples", some (MessagePack.list made Example.pack n.examples)),
   ("tech_debt", some (MessagePack.list made TechDebt.pack n.debts)),
   ("diagnostics", some (MessagePack.list made Diagnostic.pack n.diagnostics))]

/-! ## Reading -/

/-- A comment. -/
def Comment.ofWrites (ws : Writes) : Option Comment := do
  let r ← ws.record ["kind", "text", "full_text", "start", "end", "line", "column", "node_id"]
  return {
    kind := CommentKind.ofName (← (field r "kind").text)
    text := ← (field r "text").text
    fullText := ← (field r "full_text").text
    start := ← (field r "start").integer
    stop := ← (field r "end").integer
    line := ← (field r "line").integer
    column := ← (field r "column").integer
    owner := ← (field r "node_id").text? }

/-- An example. -/
def Example.ofWrites (ws : Writes) : Option Example := do
  let r ← ws.record ["code", "expected", "line", "raw", "function_name"]
  return {
    code := ← (field r "code").text
    expected := ← (field r "expected").text?
    line := ← (field r "line").integer
    raw := ← (field r "raw").text
    owner := ← (field r "function_name").text? }

/-- A tech-debt note. -/
def TechDebt.ofWrites (ws : Writes) : Option TechDebt := do
  let r ← ws.record ["line", "reason", "raw", "function_name"]
  return {
    line := ← (field r "line").integer
    reason := ← (field r "reason").text
    raw := ← (field r "raw").text
    owner := ← (field r "function_name").text? }

/-- A severity by its name; nothing counts as the lowest. -/
def Severity.ofPack : Pack → Option Severity
  | .nil => some .info
  | p => p.raw?.bind Severity.parse?

/-- A diagnostic. -/
def Diagnostic.ofWrites (ws : Writes) : Option Diagnostic := do
  let r ← ws.record
    ["code", "category", "message", "line", "column", "function_name", "severity", "suggestion"]
  return {
    code := ⟨← (field r "code").text⟩
    category := ⟨← (field r "category").text⟩
    message := ← (field r "message").text
    line := ← (field r "line").integer
    column := ← (field r "column").integer?
    owner := ← (field r "function_name").text?
    severity := ← (field r "severity").latest Severity.ofPack .info
    suggestion := ← (field r "suggestion").text? }

/-- Notes. -/
def Notes.ofWrites (ws : Writes) : Option Notes := do
  let r ← ws.record ["description", "examples", "tech_debt", "diagnostics"]
  return {
    description := ← (field r "description").text?
    examples := ← (field r "examples").list Example.ofWrites
    debts := ← (field r "tech_debt").list TechDebt.ofWrites
    diagnostics := ← (field r "diagnostics").list Diagnostic.ofWrites }

end Marginalia
