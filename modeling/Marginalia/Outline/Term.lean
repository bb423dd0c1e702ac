import Marginalia.Text.Bytes

/-!
# Types and expressions of Go

Types and expressions share one form, because the grammar often cannot tell them
apart before it has read them.  Only as much of their structure is kept as the
grammar looks at afterwards, or as the name of a method needs.
-/

namespace Marginalia.Outline

set_option autoImplicit false

/-- The directions of a channel type. -/
inductive Direction where
  | both
  | send
  | receive
  deriving DecidableEq, Repr, Inhabited

/-- A type or an expression. -/
inductive Term where
  | name (text : Bytes)
  /-- a selection from something by name -/
  | select
  /-- an element of something, or something with type arguments -/
  | index (x : Term)
  /-- a call; `spread` tells that the last argument is followed by dots -/
  | call (callee : Term) (args : List Term) (spread : Bool)
  /-- the type of the guard of a type switch -/
  | typeGuard
  /-- a sign in front of something; `tilde` tells that it is a tilde -/
  | unary (tilde : Bool)
  | binary (sign : String) (x y : Term)
  | pointer (x : Term)
  | paren (x : Term)
  | channel (direction : Direction) (value : Term)
  /-- an array, slice, map or struct type, which a literal can start with -/
  | composite
  /-- a function or interface type -/
  | signature
  /-- the type of a final parameter that takes any number of arguments -/
  | dots
  | other
  deriving Repr, Inhabited

namespace Term

/-- What stands inside parentheses. -/
def bare : Term → Term
  | .paren x => x.bare
  | x => x

def isParen : Term → Bool
  | .paren _ => true
  | _ => false

def isDots : Term → Bool
  | .dots => true
  | _ => false

/-- Is it certainly a type, and not a value? -/
def isType : Term → Bool
  | .composite | .signature | .channel _ _ => true
  | .binary _ x y => x.isType || y.isType
  | .unary tilde => tilde
  | .paren x => x.isType
  | _ => false

/-- Splits what was read as an expression into a name and the type that follows it, if it can be read
so: `P *T`, `P (T)` and these with alternatives.  The second part is absent for a mere name.  Without
`force` the rest has to be certainly a type. -/
def split? : (force : Bool) → Term → Option (Bytes × Option Term)
  | _, .name text => some (text, none)
  | force, .binary "*" (.name text) y =>
    if force || y.isType then some (text, some (.pointer y)) else none
  | force, .binary "|" x y =>
    match split? (force || y.isType) x with
    | some (text, some lhs) => some (text, some (.binary "|" lhs y))
    | _ => none
  | force, .call (.name text) [arg] false =>
    if force || arg.isType then some (text, some (.paren arg)) else none
  | _, _ => none

/-- Moves an arrow that stands before a channel type into it, and the arrow of that type on to its
element type, until the arrow is used up. -/
def receiveFrom : Term → Option Term
  | .channel .both value => some (.channel .receive value)
  | .channel .send value => (receiveFrom value).map (.channel .receive ·)
  | _ => none

/-- The name of the type that a method belongs to, behind pointers, parentheses and type arguments. -/
def receiverName : Term → Bytes
  | .pointer x => x.receiverName
  | .name text => text
  | .index x => x.receiverName
  | .paren x => x.receiverName
  | _ => utf8 "?"

end Term

end Marginalia.Outline
