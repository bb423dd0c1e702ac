import Marginalia.Outline.Basic
import Marginalia.Outline.Statement

/-!
# Declarations of Go

Imports, constants, variables, types and functions, one by one or in groups, and
the file of which they are the parts.
-/

namespace Marginalia.Outline

set_option autoImplicit false

open Parse

namespace Rules

/-! ## Declarations -/

def importSpec : Parse Unit := do
  match ← peek with
  | .name _ | .sign "." =>
    let _ ← next
  | _ => pure ()
  if (← peek) == .literal true then
    let _ ← next
    semicolon
  else fail

/-- Constants, whose type and values may be missing. -/
def constSpec (r : Rules) : Parse Unit := do
  let _ ← commas name
  let k ← peek
  if k != .eof && k != .semicolon && k != .sign ")" then
    let _ ← r.type?
    if ← sign? "=" then
      let _ ← commas r.expr
  semicolon

/-- Variables, which have a type or values or both. -/
def varSpec (r : Rules) : Parse Unit := do
  let _ ← commas name
  if !(← atSign "=") then
    let _ ← r.type
  if ← sign? "=" then
    let _ ← commas r.expr
  semicolon

/-- A type after the brackets behind its name were opened: it has type parameters, or is an array.  A
single name tilts the decision to an array. -/
def genericOrArray (r : Rules) : Parse Unit := do
  let generic (text : Bytes) (type : Option Term) : Parse Unit := do
    r.typeParamsFrom text type
    let _ ← sign? "="
    let _ ← r.type
  match ← peek with
  | .name text =>
    let _ ← next
    let x ← if ← atSign "[" then pure (Term.name text)
      else nested do r.binaryRest (← r.primaryRest (.name text)) 1
    match x.split? (← atSign ",") with
    | some (text, some type) => generic text (some type)
    | some (text, none) =>
      if ← atSign "]" then
        let _ ← r.arrayRest true
      else generic text none
    | none =>
      let _ ← r.arrayRest true
  | _ =>
    let _ ← r.arrayRest false

/-- What stands behind the name of a type. -/
def typeBody (r : Rules) : Parse Unit := do
  if ← sign? "[" then r.genericOrArray
  else
    let _ ← sign? "="
    let _ ← r.type

def typeSpec (r : Rules) (doc : Option Nat) : Parse TypeSpec := do
  let start := (← here).start
  let text ← name
  r.typeBody
  let stop := (← input).stop
  semicolon
  return { doc, name := text, start, stop }

/-- A declaration after its keyword: one part, or any number of parts in parentheses, each of which
has the comment in front of it as its own.  The second result is the end of the parentheses. -/
def parts {α : Type} (part : (doc : Option Nat) → Parse α) : Parse (List α × Option Nat) := do
  if ← sign? "(" then
    let more (k : Kind) : Bool := k != .sign ")" && k != .eof
    let ps ← many more do
      let doc := (← here).lead
      part doc
    let close ← sign ")"
    semicolon
    return (ps, some close.stop)
  else
    let p ← part none
    return ([p], none)

/-- A declaration of types. -/
def typeDecl (r : Rules) : Parse TopDecl := do
  let t ← keyword "type"
  let (specs, close) ← parts r.typeSpec
  let stop := (close.orElse fun _ => specs.head?.map TypeSpec.stop).getD t.stop
  return .types t.lead t.start stop specs

/-- A declaration of constants, variables or types. -/
def localDecl (r : Rules) (k : String) : Parse Unit := do
  if k = "type" then
    let _ ← r.typeDecl
  else
    let _ ← keyword k
    let _ ← parts fun _ => if k = "const" then r.constSpec else r.varSpec

def stmtRule (r : Rules) : Parse Unit := do
  match ← peek with
  | .semicolon =>
    let _ ← next
  | .eof => fail
  | .keyword k =>
    if ["const", "type", "var"].contains k then r.localDecl k
    else if ["func", "struct", "map", "chan", "interface"].contains k then
      match ← r.simple .labels with
      | .labeled => return
      | _ => semicolon
    else if k = "go" ∨ k = "defer" then r.callStmt
    else if k = "return" then r.returnStmt
    else if ["break", "continue", "goto", "fallthrough"].contains k then branchStmt k
    else if k = "if" then r.ifStmt
    else if k = "switch" then r.switchStmt
    else if k = "select" then r.selectStmt
    else if k = "for" then r.forStmt
    else fail
  | .sign s =>
    if s = lbrace then
      r.block
      semicolon
    else if s = rbrace then return
    else if ["(", "[", "+", "-", "*", "&", "^", "<-", "!"].contains s then
      match ← r.simple .labels with
      | .labeled => return
      | _ => semicolon
    else fail
  | _ =>
    match ← r.simple .labels with
    | .labeled => return
    | _ => semicolon

/-- A function or method up to its body: the type that it belongs to, which is that of the first
parameter before its name, and its name. -/
def funcHead (r : Rules) : Parse (Option Term × Bytes) := do
  let method ← atSign "("
  let receivers ← if method then r.parenParams true else pure []
  let text ← name
  if ← atSign "[" then r.typeParams
  r.signature
  return (receivers.head?, text)

/-- The body of a function, which may be missing; gives the offset after the function. -/
def funcBody (r : Rules) : Parse Nat := do
  if ← atSign lbrace then
    r.block
    let stop := (← input).stop
    semicolon
    return stop
  else
    let stop := (← input).stop
    semicolon
    if ← atSign lbrace then fail else return stop

def funcDecl (r : Rules) : Parse TopDecl := do
  let t ← keyword "func"
  let (receiver, text) ← r.funcHead
  let stop ← r.funcBody
  return .func t.lead t.start stop receiver text

def topDecl (r : Rules) : Parse TopDecl := do
  match ← peek with
  | .keyword "func" => r.funcDecl
  | .keyword "type" => r.typeDecl
  | .keyword k =>
    if k = "const" ∨ k = "var" then
      r.localDecl k
      return .other
    else fail
  | _ => fail

def importDecl : Parse TopDecl := do
  let _ ← keyword "import"
  let _ ← parts fun _ => importSpec
  return .other

/-- A file: the name of its package, imports, then other declarations. -/
def file (r : Rules) : Parse (List TopDecl) := do
  let _ ← keyword "package"
  let _ ← name
  semicolon
  let imports ← many (· == .keyword "import") importDecl
  let decls ← many (· != .eof) r.topDecl
  return imports ++ decls

end Rules

end Marginalia.Outline
