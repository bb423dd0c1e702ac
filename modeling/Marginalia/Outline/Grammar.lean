import Marginalia.Outline.Declaration

/-!
# The grammar of Go

Reads the tokens of a file into its declarations, and fails if they do not form a
file.  Only the form is checked: names need not be declared, and types need not
fit.

The rules for nesting of depth `n + 1` are those of the grammar applied to the rules
for depth `n`.  Text of a given number of tokens cannot nest deeper than a fixed
multiple of it.
-/

namespace Marginalia.Outline

set_option autoImplicit false

open Parse

namespace Rules

/-- Rules that read nothing. -/
def nothing : Rules where
  type? := fail
  unary := fail
  primaryRest := fun _ => fail
  binaryRest := fun _ _ => fail
  value := fail
  stmt := fail
  ifStmt := fail

/-- The rules for what nests in what `r` can read. -/
def deeper (r : Rules) : Rules where
  type? := r.typeRule
  unary := r.unaryRule
  primaryRest := r.primaryRule
  binaryRest := r.binaryRule
  value := r.valueRule
  stmt := r.stmtRule
  ifStmt := r.ifRule

/-- The rules for nesting up to a depth. -/
def ofDepth : Nat → Rules
  | 0 => nothing
  | n + 1 => (ofDepth n).deeper

end Rules

/-- The declarations at the top level of a file, if the text is one. -/
def ofText? (content : Bytes) : Option (List TopDecl) := do
  let ts ← tokens? content
  let (decls, _) ← (Rules.ofDepth (8 * ts.length + 8)).file.run { tokens := ts }
  return decls

end Marginalia.Outline
