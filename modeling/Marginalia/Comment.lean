import Marginalia.Text.Bytes

/-!
# Comments

A comment as it was found in a source text: its kind, its body and its full text,
where it stands, and the declaration that owns it, if that is known.
-/

namespace Marginalia

set_option autoImplicit false

/-- Comments to the end of the line, and comments between delimiters. -/
inductive CommentKind where
  | line
  | block
  deriving DecidableEq, Repr, Inhabited

namespace CommentKind

def name : CommentKind → Bytes
  | .line => utf8 "line"
  | .block => utf8 "block"

/-- The kind with the given name; what is not a block comment is a line comment. -/
def ofName (text : Bytes) : CommentKind := if text = utf8 "block" then .block else .line

@[simp] theorem ofName_name (k : CommentKind) : ofName k.name = k := by cases k <;> rfl

end CommentKind

/-- A comment and where it stands. -/
structure Comment where
  kind : CommentKind
  /-- the body, without the delimiters -/
  text : Bytes
  /-- the comment as written, with its delimiters -/
  fullText : Bytes
  /-- the offset of its first byte -/
  start : Int
  /-- the offset after its last byte -/
  stop : Int
  /-- the line it starts on, counted from one -/
  line : Int
  /-- the byte of that line it starts at, counted from one -/
  column : Int
  /-- the name of the declaration that owns it -/
  owner : Option Bytes := none
  deriving DecidableEq, Repr, Inhabited

namespace Comment

/-- A comment without an owner. -/
def orphan (c : Comment) : Bool := c.owner.isNone

/-- The comment of which nothing is known. -/
def blank : Comment :=
  { kind := .line, text := [], fullText := [], start := 0, stop := 0, line := 0, column := 0 }

end Comment

end Marginalia
