import Marginalia.Outline.TypeForm

/-!
# Expressions of Go

Operands with their selectors, indices, calls and literals, the signs in front of
them, and operators by precedence.  In the header of a statement a brace after a
name does not open a literal.
-/

namespace Marginalia.Outline

set_option autoImplicit false

open Parse

namespace Rules

/-- The statements up to a closing brace or the next case. -/
def stmts (r : Rules) : Parse Unit := do
  let more : Kind → Bool
    | .keyword k => k != "case" && k != "default"
    | .sign s => s != rbrace
    | .eof => false
    | _ => true
  let _ ← many more r.stmt

/-- Statements in braces. -/
def block (r : Rules) : Parse Unit := do
  let _ ← sign lbrace
  r.stmts
  let _ ← sign rbrace

/-- A function type, or with a body a function. -/
def function (r : Rules) : Parse Term := do
  let t ← r.funcType
  if ← atSign lbrace then
    nested r.block
    return .other
  else return t

def operand (r : Rules) : Parse Term := do
  match ← peek with
  | .name text =>
    let _ ← next
    return .name text
  | .literal _ =>
    let _ ← next
    return .other
  | .sign "(" =>
    let _ ← next
    let x ← nested r.expr
    let _ ← sign ")"
    return .paren x
  | .keyword "func" => r.function
  | _ => r.type

/-- The elements of a literal in braces. -/
def literalValue (r : Rules) : Parse Term := do
  let _ ← sign lbrace
  let element : Parse Unit := do
    let _ ← r.value
    if ← sign? ":" then
      let _ ← r.value
  let _ ← nested (list rbrace element)
  let _ ← sign rbrace
  return .other

def valueRule (r : Rules) : Parse Term := do if ← atSign lbrace then r.literalValue else r.expr

/-- After an opening bracket: an index, a slice with two or three bounds, or type arguments.  Of three
bounds only the first may be missing. -/
def indexRest (r : Rules) (x : Term) : Parse Term := do
  let bound : Parse Bool := do
    if (← atSign ":") || (← atSign "]") then return false
    else
      let _ ← r.expr
      return true
  let first ← nested bound
  let result ← nested do
    if ← sign? ":" then
      let second ← bound
      if ← sign? ":" then
        let third ← bound
        if second && third then return Term.other else fail
      else return Term.other
    else if !first then fail
    else if ← sign? "," then
      let _ ← list "]" r.type
      return Term.index x
    else return Term.index x
  let _ ← sign "]"
  return result

/-- The arguments of a call; one that is followed by dots is the last. -/
def callRest (r : Rules) (x : Term) : Parse Term := do
  let arg : Parse (Term × Bool) := do
    let a ← r.expr
    return (a, ← sign? "...")
  let args ← nested (list ")" arg)
  let _ ← sign ")"
  if args.dropLast.any (·.2) then fail
  else return .call x (args.map (·.1)) (args.any (·.2))

/-- May a literal in braces follow?  In a header only after what is certainly a type. -/
def startsLiteral (header : Bool) : Term → Bool
  | .name _ | .select | .index _ => !header
  | .composite => true
  | _ => false

def primaryRule (r : Rules) (x : Term) : Parse Term := do
  match ← peek with
  | .sign "." =>
    let _ ← next
    if ← sign? "(" then
      if (← peek) == .keyword "type" then
        let _ ← next
        let _ ← sign ")"
        r.primaryRest .typeGuard
      else
        let _ ← r.type
        let _ ← sign ")"
        r.primaryRest .other
    else
      let _ ← name
      r.primaryRest .select
  | .sign "[" =>
    let _ ← next
    r.primaryRest (← r.indexRest x)
  | .sign "(" =>
    let _ ← next
    r.primaryRest (← r.callRest x)
  | k =>
    if k == .sign lbrace && startsLiteral (← input).header x.bare then
      if x.isParen then fail
      else r.primaryRest (← r.literalValue)
    else return x

def unaryRule (r : Rules) : Parse Term := do
  match ← peek with
  | .sign "<-" =>
    let _ ← next
    match ← r.unary with
    | .channel d value =>
      match (Term.channel d value).receiveFrom with
      | some t => return t
      | none => fail
    | _ => return .unary false
  | .sign "*" =>
    let _ ← next
    return .pointer (← r.unary)
  | .sign s =>
    if ["+", "-", "!", "^", "&", "~"].contains s then
      let _ ← next
      let _ ← r.unary
      return .unary (s == "~")
    else r.primaryRest (← r.operand)
  | _ => r.primaryRest (← r.operand)

/-- How tightly an operator binds. -/
def precedence (s : String) : Nat :=
  if s = "||" then 1
  else if s = "&&" then 2
  else if ["==", "!=", "<", "<=", ">", ">="].contains s then 3
  else if ["+", "-", "|", "^"].contains s then 4
  else if ["*", "/", "%", "<<", ">>", "&", "&^"].contains s then 5
  else 0

def binaryRule (r : Rules) (x : Term) (least : Nat) : Parse Term := do
  match ← peek with
  | .sign s =>
    let p := precedence s
    if p = 0 ∨ p < least then return x
    else
      let _ ← next
      let y ← r.binaryRest (← r.unary) (p + 1)
      r.binaryRest (.binary s x y) least
  | _ => return x

end Rules

end Marginalia.Outline
