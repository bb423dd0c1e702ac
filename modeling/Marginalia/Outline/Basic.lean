import Marginalia.Outline.Term
import Marginalia.Owner.Region

/-!
# The outline of a Go file

The declarations at the top level of a file, as far as they own comments:
functions and methods, and types one by one.  The documentation of a declaration
belongs to it.  A type that is declared alone owns the whole declaration; one that
is declared in a group with others owns its part of it.
-/

namespace Marginalia.Outline

set_option autoImplicit false

/-- A type within a declaration of types. -/
structure TypeSpec where
  /-- the offset of the comment in front of it -/
  doc : Option Nat
  name : Bytes
  start : Nat
  stop : Nat
  deriving DecidableEq, Repr, Inhabited

/-- A declaration at the top level; `doc` is the offset of its documentation. -/
inductive TopDecl where
  | func (doc : Option Nat) (start stop : Nat) (receiver : Option Term) (name : Bytes)
  | types (doc : Option Nat) (start stop : Nat) (specs : List TypeSpec)
  | other
  deriving Repr, Inhabited

namespace TopDecl

/-- The name of a function; that of a method follows the type it belongs to. -/
def funcName (receiver : Option Term) (name : Bytes) : Bytes :=
  match receiver with
  | some t => t.receiverName ++ utf8 "." ++ name
  | none => name

/-- The regions that a declaration owns. -/
def regions : TopDecl → List Region
  | .func doc start stop receiver name => [⟨funcName receiver name, doc.getD start, stop⟩]
  | .types doc start stop [spec] => [⟨spec.name, (spec.doc.orElse fun _ => doc).getD start, stop⟩]
  | .types _ _ _ specs => specs.map fun spec => ⟨spec.name, spec.doc.getD spec.start, spec.stop⟩
  | .other => []

end TopDecl

/-- The regions that the declarations of a file own. -/
def regions (decls : List TopDecl) : List Region := decls.flatMap TopDecl.regions

end Marginalia.Outline
