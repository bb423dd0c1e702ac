import Marginalia.Outline.Reader
import Marginalia.Outline.Term

/-!
# Types of Go

The rules of the grammar refer to each other.  Each is written as a function of the
rules for what is nested in it, `Rules`.  Here are the rules for types: names with
their type arguments, arrays, functions and their parameters, structures and
interfaces, maps and channels.
-/

namespace Marginalia.Outline

set_option autoImplicit false

open Parse

/-- The rules for what is nested. -/
structure Rules where
  /-- a type, if there is one -/
  type? : Parse (Option Term)
  /-- an operand with the signs in front of it and the parts behind it -/
  unary : Parse Term
  /-- the rest of an operand -/
  primaryRest : Term → Parse Term
  /-- the rest of an expression of operators that bind at least as tightly as given -/
  binaryRest : Term → Nat → Parse Term
  /-- the value of an element in a literal -/
  value : Parse Term
  /-- a statement -/
  stmt : Parse Unit
  /-- an `if` statement -/
  ifStmt : Parse Unit

namespace Rules

/-! ## Names and types -/

def type (r : Rules) : Parse Term := do
  match ← r.type? with
  | some t => return t
  | none => fail

def expr (r : Rules) : Parse Term := do r.binaryRest (← r.unary) 1

/-- A name, perhaps of another package. -/
def typeNameFrom (text : Bytes) : Parse Term := do
  if ← sign? "." then
    let _ ← name
    return .select
  else return .name text

/-- Type arguments, of which there is at least one. -/
def instanceOf (r : Rules) (x : Term) : Parse Term := do
  let _ ← sign "["
  let args ← nested (list "]" r.type)
  let _ ← sign "]"
  if args.isEmpty then fail else return .index x

def typeName (r : Rules) (text : Bytes) : Parse Term := do
  let t ← typeNameFrom text
  if ← atSign "[" then r.instanceOf t else return t

/-- An array or slice type after its opening bracket; `length` tells that the length was read. -/
def arrayRest (r : Rules) (length : Bool) : Parse Term := do
  if !length then
    if !(← sign? "...") && !(← atSign "]") then
      let _ ← nested r.expr
  let _ ← sign "]"
  let _ ← r.type
  return .composite

/-- After a name: an array type for it, or type arguments to it.  The second result tells whether the
name is one of its own, apart from the type. -/
def arrayOrInstance (r : Rules) (text : Bytes) : Parse (Term × Bool) := do
  let _ ← sign "["
  let (args, trailing) ← nested (listWithComma "]" r.expr)
  let _ ← sign "]"
  match args with
  | [] =>
    let _ ← r.type
    return (.composite, true)
  | [_] =>
    match ← r.type? with
    -- A type behind the brackets makes what stands in them the length of an array.
    | some _ => if trailing then fail else return (.composite, true)
    | none => return (.index (.name text), false)
  | _ => return (.index (.name text), false)

/-- Types joined by bars, each perhaps with a tilde; the first may have been read. -/
def union (r : Rules) (first : Option Term) : Parse Term := do
  let term : Parse Term := do
    if ← sign? "~" then
      let _ ← r.type
      return .unary true
    else r.type
  let first ← match first with
    | some t => pure t
    | none => term
  let more ← many (· == .sign "|") do
    let _ ← sign "|"
    term
  return more.foldl (.binary "|") first

/-! ## Parameters -/

/-- A parameter: its name and its type, one of which may be missing. -/
structure Param where
  name : Option Bytes
  type : Option Term
  deriving Repr, Inhabited

/-- A parameter; its name may have been read.  In a list of type parameters types may be joined. -/
def param (r : Rules) (typeParams : Bool) (given : Option Bytes) : Parse Param := do
  let joined (p : Param) : Parse Param := do
    match p.type with
    | some t =>
      if typeParams && (← atSign "|") then return { p with type := some (← r.union (some t)) }
      else return p
    | none => return p
  let dots : Parse Term := do
    let _ ← sign "..."
    let _ ← r.type
    return .dots
  let named (text : Bytes) : Parse Param := do
    match ← peek with
    | .name _ => joined ⟨some text, some (← r.type)⟩
    | .keyword k =>
      if ["func", "chan", "map", "struct", "interface"].contains k then
        joined ⟨some text, some (← r.type)⟩
      else return ⟨some text, none⟩
    | .sign "*" | .sign "<-" | .sign "(" => joined ⟨some text, some (← r.type)⟩
    | .sign "[" => do
      let (t, own) ← r.arrayOrInstance text
      joined ⟨if own then some text else none, some t⟩
    | .sign "..." => return ⟨some text, some (← dots)⟩
    | .sign "." => joined ⟨none, some (← r.typeName text)⟩
    | .sign "~" =>
      if typeParams then return ⟨some text, some (← r.union none)⟩ else return ⟨some text, none⟩
    | .sign "|" =>
      if typeParams then return ⟨none, some (← r.union (some (.name text)))⟩
      else return ⟨some text, none⟩
    | _ => return ⟨some text, none⟩
  match given with
  | some text => named text
  | none =>
    match ← peek with
    | .name text => do
      let _ ← next
      named text
    | .sign "~" => if typeParams then return ⟨none, some (← r.union none)⟩ else fail
    | .sign "..." => return ⟨none, some (← dots)⟩
    | _ => joined ⟨none, some (← r.type)⟩

/-- The types of parameters of which some are named: a name without a type has that of the next
parameter, and every parameter needs both. -/
def spreadTypes : List Param → Option (List Term)
  | [] => some []
  | ⟨some _, some t⟩ :: rest => (spreadTypes rest).map (t :: ·)
  | ⟨some _, none⟩ :: rest =>
    match spreadTypes rest with
    | some (t :: ts) => some (t :: t :: ts)
    | _ => none
  | ⟨none, _⟩ :: _ => none

/-- The types of the parameters in a list.  If none has a name and a type, all are types, which is not
allowed for type parameters.  Dots are allowed in the last parameter only, and there if `dots`. -/
def paramTypes (typeParams dots : Bool) (ps : List Param) : Option (List Term) := do
  let named := ps.any fun p => p.name.isSome && p.type.isSome
  let types ←
    if named then spreadTypes ps
    else if typeParams && !ps.isEmpty then none
    else some (ps.filterMap fun p => p.type.orElse fun _ => p.name.map .name)
  if (if dots then types.dropLast else types).any Term.isDots then none else some types

/-- The parameters up to the closing sign, which stays. -/
def params (r : Rules) (typeParams dots : Bool) (closing : String) : Parse (List Term) := do
  match paramTypes typeParams dots (← list closing (r.param typeParams none)) with
  | some ts => return ts
  | none => fail

/-- The rest of a list of type parameters, the first name and perhaps type of which were read. -/
def typeParamsFrom (r : Rules) (text : Bytes) (type : Option Term) : Parse Unit := do
  let first ← match type with
    | some t => pure ⟨some text, some (← r.union (some t))⟩
    | none => r.param true (some text)
  let more ← if ← sign? "," then list "]" (r.param true none) else pure []
  let _ ← sign "]"
  if (paramTypes true false (first :: more)).isNone then fail

def typeParams (r : Rules) : Parse Unit := do
  let _ ← sign "["
  let ts ← r.params true false "]"
  let _ ← sign "]"
  if ts.isEmpty then fail

def parenParams (r : Rules) (dots : Bool) : Parse (List Term) := do
  let _ ← sign "("
  let ts ← r.params false dots ")"
  let _ ← sign ")"
  return ts

/-- Parameters and results. -/
def signature (r : Rules) : Parse Unit := do
  let _ ← r.parenParams true
  if ← atSign "(" then
    let _ ← r.parenParams false
  else
    let _ ← r.type?

/-! ## The forms of types -/

def funcType (r : Rules) : Parse Term := do
  let _ ← keyword "func"
  r.signature
  return .signature

/-- A field of a struct, or several of one type, or an embedded type. -/
def field (r : Rules) : Parse Unit := do
  match ← peek with
  | .name text => do
    let _ ← next
    match ← peek with
    | .sign "." =>
      let _ ← r.typeName text
    | .literal true | .semicolon => pure ()
    | k =>
      if k == .sign rbrace then pure ()
      else if k == .sign "[" then
        let _ ← r.arrayOrInstance text
      else
        if ← sign? "," then
          let _ ← commas name
        let _ ← r.type
  | .sign "*" => do
    let _ ← next
    let _ ← r.typeName (← name)
  | _ => fail
  if (← peek) == .literal true then
    let _ ← next
  semicolon

def structType (r : Rules) : Parse Term := do
  let _ ← keyword "struct"
  let _ ← sign lbrace
  let isField : Kind → Bool
    | .name _ | .sign "*" | .sign "(" => true
    | _ => false
  let _ ← many isField r.field
  let _ ← sign rbrace
  return .composite

/-- A method of an interface, or an embedded type with more joined to it. -/
def methodOrEmbedded (r : Rules) (text : Bytes) : Parse Unit := do
  match ← typeNameFrom text with
  | .name _ =>
    -- Methods of an interface have no type parameters, so these are arguments of an embedded type.
    if ← atSign "[" then
      let _ ← next
      let _ ← nested r.expr
      if ← sign? "," then
        let _ ← nested (list "]" r.type)
      let _ ← sign "]"
      let _ ← r.union (some .other)
    else if ← atSign "(" then r.signature
    else
      let _ ← r.union (some (.name text))
  | t =>
    let t ← if ← atSign "[" then r.instanceOf t else pure t
    let _ ← r.union (some t)

/-- The elements of an interface. -/
def interfaceElements (r : Rules) : Nat → Parse Unit
  | 0 => fail
  | n + 1 => do
    match ← peek with
    | .name text =>
      let _ ← next
      r.methodOrEmbedded text
      semicolon
      interfaceElements r n
    | .sign "~" =>
      let _ ← r.union none
      semicolon
      interfaceElements r n
    | _ =>
      match ← r.type? with
      | some t =>
        let _ ← r.union (some t)
        semicolon
        interfaceElements r n
      | none => return

def interfaceType (r : Rules) : Parse Term := do
  let _ ← keyword "interface"
  let _ ← sign lbrace
  r.interfaceElements ((← input).tokens.length + 1)
  let _ ← sign rbrace
  return .signature

def mapType (r : Rules) : Parse Term := do
  let _ ← keyword "map"
  let _ ← sign "["
  let _ ← r.type
  let _ ← sign "]"
  let _ ← r.type
  return .composite

def chanType (r : Rules) : Parse Term := do
  if ← sign? "<-" then
    let _ ← keyword "chan"
    return .channel .receive (← r.type)
  else
    let _ ← keyword "chan"
    let direction := if ← sign? "<-" then Direction.send else Direction.both
    return .channel direction (← r.type)

/-- A type, if what is next starts one. -/
def typeRule (r : Rules) : Parse (Option Term) := do
  match ← peek with
  | .name text =>
    let _ ← next
    return some (← r.typeName text)
  | .sign "[" =>
    let _ ← next
    return some (← r.arrayRest false)
  | .sign "*" =>
    let _ ← next
    return some (.pointer (← r.type))
  | .sign "(" =>
    let _ ← next
    let t ← r.type
    let _ ← sign ")"
    return some (.paren t)
  | .sign "<-" => return some (← r.chanType)
  | .keyword "struct" => return some (← r.structType)
  | .keyword "func" => return some (← r.funcType)
  | .keyword "interface" => return some (← r.interfaceType)
  | .keyword "map" => return some (← r.mapType)
  | .keyword "chan" => return some (← r.chanType)
  | _ => return none

end Rules

end Marginalia.Outline
