import Marginalia.Comment
import Marginalia.Json.Basic
import Marginalia.Notes.Basic

/-!
# Records in Json

Comments, notes and diagnostics as objects.  What may be missing is left out when
it is.
-/

namespace Marginalia

set_option autoImplicit false

def Comment.toJson (c : Comment) : Json := .ofMembers
  [("kind", some (.str c.kind.name)), ("text", some (.str c.text)),
   ("fullText", some (.str c.fullText)), ("start", some (.int c.start)), ("end", some (.int c.stop)),
   ("line", some (.int c.line)), ("column", some (.int c.column)), ("nodeId", c.owner.map .str)]

def Example.toJson (e : Example) : Json := .ofMembers
  [("code", some (.str e.code)), ("expected", e.expected.map .str), ("line", some (.int e.line)),
   ("raw", some (.str e.raw)), ("functionName", e.owner.map .str)]

def TechDebt.toJson (d : TechDebt) : Json := .ofMembers
  [("line", some (.int d.line)), ("reason", some (.str d.reason)), ("raw", some (.str d.raw)),
   ("functionName", d.owner.map .str)]

def Diagnostic.toJson (d : Diagnostic) : Json := .ofMembers
  [("code", some (.str d.code.text)), ("category", some (.str d.category.name)),
   ("message", some (.str d.message)), ("line", some (.int d.line)), ("column", d.column.map .int),
   ("functionName", d.owner.map .str), ("severity", some (.str d.severity.name)),
   ("suggestion", d.suggestion.map .str)]

def Notes.toJson (n : Notes) : Json := .ofMembers
  [("description", n.description.map .str), ("examples", some (.array (n.examples.map Example.toJson))),
   ("techDebt", some (.array (n.debts.map TechDebt.toJson))),
   ("diagnostics", some (.array (n.diagnostics.map Diagnostic.toJson)))]

end Marginalia
