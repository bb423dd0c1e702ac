import Marginalia.Outline.Expression

/-!
# Statements of Go

Simple statements, which may also stand in the headers of others, and the
statements with a body.
-/

namespace Marginalia.Outline

set_option autoImplicit false

open Parse

namespace Rules

/-! ## Simple statements -/

/-- A statement that can stand in the header of another. -/
inductive Simple where
  | expr (x : Term)
  /-- an assignment with the number of its left sides, and its right sides -/
  | assign (sign : String) (left : Nat) (right : List Term)
  | range (left : Nat)
  | labeled
  | other
  deriving Repr, Inhabited

/-- What is allowed besides ordinary simple statements. -/
inductive Allowed where
  | nothing
  | labels
  | ranges
  deriving DecidableEq, Repr, Inhabited

/-- The signs of assignments. -/
def assignments : List String :=
  [":=", "=", "+=", "-=", "*=", "/=", "%=", "&=", "|=", "^=", "<<=", ">>=", "&^="]

def simple (r : Rules) (allowed : Allowed) : Parse Simple := do
  let left ← commas r.expr
  let atRange : Parse Bool := atKeyword "range"
  match ← peek, left with
  | .sign ":", [x] =>
    let _ ← next
    match x with
    | .name _ =>
      if allowed = .labels then
        r.stmt
        return .labeled
      else fail
    | _ => fail
  | .sign "<-", [_] =>
    let _ ← next
    let _ ← r.expr
    return .other
  | .sign "++", [_] | .sign "--", [_] =>
    let _ ← next
    return .other
  | .sign s, _ =>
    if assignments.contains s then
      let _ ← next
      -- The word after the sign tells a loop over a range from an assignment.
      if allowed = .ranges && (s == ":=" || s == "=") && (← atRange) then
        let _ ← next
        let _ ← r.expr
        return .range left.length
      else return .assign s left.length (← commas r.expr)
    else
      match left with
      | [x] => return .expr x
      | _ => fail
  | _, [x] => return .expr x
  | _, _ => fail

/-- What a header asks for has to be an expression, or missing. -/
def isExprOrNone : Option Simple → Bool
  | none => true
  | some (.expr _) => true
  | some _ => false

/-! ## Statements -/

/-- The condition of an `if`, perhaps after a statement. -/
def ifHeader (r : Rules) : Parse Unit := within true do
  if ← atSign lbrace then fail
  let first ← if (← peek) == .semicolon then pure none else some <$> r.simple .nothing
  let cond ←
    if ← atSign lbrace then pure first
    else if (← peek) == .semicolon then
      let _ ← next
      if ← atSign lbrace then fail else some <$> r.simple .nothing
    else fail
  match cond with
  | some (.expr _) => return
  | _ => fail

def ifRule (r : Rules) : Parse Unit := do
  let _ ← keyword "if"
  r.ifHeader
  r.block
  if ← atKeyword "else" then
    let _ ← next
    if ← atKeyword "if" then r.ifStmt
    else
      r.block
      semicolon
  else semicolon

/-- Is the statement the guard of a type switch?  Nothing if it would be one with another sign. -/
def isGuard : Option Simple → Option Bool
  | some (.expr .typeGuard) => some true
  | some (.assign s 1 [.typeGuard]) =>
    if s = ":=" then some true else if s = "=" then none else some false
  | _ => some false

def isCase : Kind → Bool
  | .keyword k => k == "case" || k == "default"
  | _ => false

def switchStmt (r : Rules) : Parse Unit := do
  let _ ← keyword "switch"
  let tag ← if ← atSign lbrace then pure none else within true do
    let first ← if (← peek) == .semicolon then pure none else some <$> r.simple .nothing
    if (← peek) == .semicolon then
      let _ ← next
      if ← atSign lbrace then pure none else some <$> r.simple .nothing
    else pure first
  let guarded ← match isGuard tag with
    | some g => pure g
    | none => fail
  let _ ← sign lbrace
  let _ ← many isCase do
    if ← atKeyword "case" then
      let _ ← next
      let _ ← commas r.expr
    else
      let _ ← next
    let _ ← sign ":"
    r.stmts
  let _ ← sign rbrace
  semicolon
  if !guarded && !isExprOrNone tag then fail

/-- What a case of a `select` waits for: to send, to receive, or to receive and assign. -/
def commCase (r : Rules) : Parse Unit := do
  let left ← commas r.expr
  if ← sign? "<-" then
    let _ ← r.expr
    if left.length ≠ 1 then fail
  else if (← sign? "=") || (← sign? ":=") then
    let _ ← r.expr
    if 2 < left.length then fail
  else if left.length ≠ 1 then fail

def selectStmt (r : Rules) : Parse Unit := do
  let _ ← keyword "select"
  let _ ← sign lbrace
  let _ ← many isCase do
    if ← atKeyword "case" then
      let _ ← next
      r.commCase
    else
      let _ ← next
    let _ ← sign ":"
    r.stmts
  let _ ← sign rbrace
  semicolon

/-- The header of a loop: nothing, a condition, a range, or three parts. -/
def forHeader (r : Rules) : Parse Unit := within true do
  if ← atSign lbrace then return
  if ← atKeyword "range" then
    let _ ← next
    let _ ← r.expr
    return
  let first ← if (← peek) == .semicolon then pure none else some <$> r.simple .ranges
  match first with
  | some (.range left) => if 2 < left then fail
  | _ =>
    if (← peek) == .semicolon then
      let _ ← next
      let cond ← if (← peek) == .semicolon then pure none else some <$> r.simple .nothing
      -- The second semicolon is needed even where the last part is missing.
      semicolon
      if !(← atSign lbrace) then
        let _ ← r.simple .nothing
      if !isExprOrNone cond then fail
    else if !isExprOrNone first then fail

def forStmt (r : Rules) : Parse Unit := do
  let _ ← keyword "for"
  r.forHeader
  r.block
  semicolon

/-- The call of a `go` or `defer` statement. -/
def callStmt (r : Rules) : Parse Unit := do
  let _ ← next
  match ← r.expr with
  | .call _ _ _ => semicolon
  | _ => fail

def returnStmt (r : Rules) : Parse Unit := do
  let _ ← keyword "return"
  let k ← peek
  if k != .semicolon && k != .sign rbrace then
    let _ ← commas r.expr
  semicolon

/-- A jump; only `goto` needs a label, and `fallthrough` has none. -/
def branchStmt (k : String) : Parse Unit := do
  let _ ← keyword k
  if k = "goto" then
    let _ ← name
  else if k ≠ "fallthrough" then
    match ← peek with
    | .name _ =>
      let _ ← next
    | _ => pure ()
  semicolon

end Rules

end Marginalia.Outline
