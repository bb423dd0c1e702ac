import Marginalia.Json.Basic
import Marginalia.Output.Basic

/-!
# Results as a SARIF log

The diagnostics of all files in the format for results of static analysis: one run,
with every code of the vocabulary as a rule.
-/

namespace Marginalia

set_option autoImplicit false

/-- The tool that a log names, and how it was called. -/
structure SarifOptions where
  toolName : Bytes := []
  toolVersion : Bytes := []
  arguments : List Bytes := []
  deriving DecidableEq, Repr, Inhabited

namespace Sarif

/-- The level of a severity. -/
def level (s : Severity) : Bytes :=
  if s = .error then utf8 "error" else if s = .warn then utf8 "warning" else utf8 "note"

def message (text : Bytes) : Json := .ofMembers [("text", some (.str text))]

/-- A code of the vocabulary as a rule. -/
def rule (c : Code) : Json := .ofMembers
  [("id", some (.str c.text)), ("shortDescription", some (message c.title)),
   ("defaultConfiguration", some (.ofMembers [("level", some (.str (level c.severity)))])),
   ("properties", some (.ofMembers [("category", some (.str c.category.name))]))]

/-- The place of a code among the rules, the first one for a code that is not there. -/
def ruleIndex (c : Code) : Nat := (Code.vocabulary.findIdx? (· = c)).getD 0

/-- A diagnostic in the log. -/
structure Entry where
  uri : Bytes
  diagnostic : Diagnostic
  deriving DecidableEq, Repr, Inhabited

/-- Where a diagnostic is; lines start at one, and a column of zero is left out. -/
def location (e : Entry) : Json := .ofMembers
  [("physicalLocation", some (.ofMembers
     [("artifactLocation", some (.ofMembers [("uri", some (.str e.uri))])),
      ("region", some (.ofMembers
        [("startLine", some (.int (max e.diagnostic.line 1))),
         ("startColumn",
           if e.diagnostic.columnOrZero = 0 then none else some (.int e.diagnostic.columnOrZero))]))]))]

/-- A diagnostic as a result. -/
def result (e : Entry) : Json := .ofMembers
  [("ruleId", some (.str e.diagnostic.code.text)),
   ("ruleIndex", some (.nat (ruleIndex e.diagnostic.code))),
   ("level", some (.str (level e.diagnostic.severity))),
   ("message", some (message e.diagnostic.message)), ("locations", some (.array [location e])),
   ("properties", some (.ofMembers
     [("category", some (.str e.diagnostic.category.name)),
      ("functionName", e.diagnostic.owner.map .str),
      ("suggestion", e.diagnostic.suggestion.map .str)]))]

/-- The diagnostics of the files that could be read. -/
def entries (scene : Scene) (results : List FileResult) : List Entry :=
  (results.filter fun r => r.error.isNone).flatMap fun r =>
    r.diagnostics.map fun d => ⟨scene.display .relative r.path, d⟩

/-- The log. -/
def log (o : SarifOptions) (scene : Scene) (results : List FileResult) : Json :=
  let success := results.all fun r => r.error.isNone
  let name := if o.toolName.isEmpty then utf8 "docmark" else o.toolName
  .ofMembers
    [("version", some (.text "2.1.0")),
     ("$schema", some (.text "https://json.schemastore.org/sarif-2.1.0.json")),
     ("runs", some (.array [.ofMembers
       [("tool", some (.ofMembers [("driver", some (.ofMembers
          [("name", some (.str name)),
           ("version", if o.toolVersion.isEmpty then none else some (.str o.toolVersion)),
           ("rules", some (.array (Code.vocabulary.map rule)))]))])),
        ("invocations", some (.array [.ofMembers
          [("arguments",
             if o.arguments.isEmpty then none else some (.array (o.arguments.map .str))),
           ("executionSuccessful", some (.bool success))]])),
        ("results", some (.array ((entries scene results).map result)))]]))]

end Sarif

/-- Results as a log. -/
def printSarif (o : SarifOptions) (scene : Scene) (results : List FileResult) : Bytes :=
  (Sarif.log o scene results).document

end Marginalia
