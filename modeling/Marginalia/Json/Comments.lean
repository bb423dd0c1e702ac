import Marginalia.Comment
import Marginalia.Json.Read
import Marginalia.Unicode.CaseFold

/-!
# Comments read from Json

A list of comments, each an object.  The names of fields are told apart without
regard to case, and there are no others; of a field that is given twice the last
counts.  A field that is null stays as it was, except that it takes an owner away.
-/

namespace Marginalia

set_option autoImplicit false

/-- The names of the fields of a comment. -/
def Comment.fieldNames : List String :=
  ["kind", "text", "fullText", "start", "end", "line", "column", "nodeId"]

/-- A name without regard to case. -/
def foldedName (s : Bytes) : List Nat := (Utf8.chars s).map fun c => Unicode.foldKey c.toNat

/-- The field that a key names. -/
def Comment.fieldOf? (key : Bytes) : Option String :=
  Comment.fieldNames.find? fun name => foldedName (utf8 name) = foldedName key

/-- The integer of 64 bits that a literal is. -/
def Json.int64? (literal : List Char) : Option Int :=
  let (negative, digits) := match literal with
    | '-' :: rest => (true, rest)
    | _ => (false, literal)
  if digits.isEmpty || !digits.all Json.isDigit then none
  else
    let n : Nat := digits.foldl (fun n c => n * 10 + (c.toNat - 48)) 0
    let v : Int := if negative then -(n : Int) else n
    if -0x8000000000000000 ≤ v ∧ v < 0x8000000000000000 then some v else none

/-- A text in place of another, which null leaves as it is. -/
def Json.setText (set : Bytes → Comment) (c : Comment) : Json → Option Comment
  | .null => some c
  | .str s => some (set s)
  | _ => none

/-- A number in place of another, which null leaves as it is. -/
def Json.setInt (set : Int → Comment) (c : Comment) : Json → Option Comment
  | .null => some c
  | .number literal => (Json.int64? literal).map set
  | _ => none

/-- A comment with one field set. -/
def Comment.setField (c : Comment) (name : String) (v : Json) : Option Comment :=
  match name with
  | "kind" => Json.setText (fun s => { c with kind := CommentKind.ofName s }) c v
  | "text" => Json.setText (fun s => { c with text := s }) c v
  | "fullText" => Json.setText (fun s => { c with fullText := s }) c v
  | "start" => Json.setInt (fun n => { c with start := n }) c v
  | "end" => Json.setInt (fun n => { c with stop := n }) c v
  | "line" => Json.setInt (fun n => { c with line := n }) c v
  | "column" => Json.setInt (fun n => { c with column := n }) c v
  | "nodeId" => Json.setText (fun s => { c with owner := some s }) { c with owner := none } v
  | _ => none

/-- The comment that a value is; null is the comment of which nothing is known. -/
def Comment.ofJson : Json → Option Comment
  | .null => some Comment.blank
  | .object members =>
    members.foldlM (fun c m => (Comment.fieldOf? m.1).bind fun name => c.setField name m.2)
      Comment.blank
  | _ => none

/-- The comments that a value is. -/
def commentsOfJson : Json → Option (List Comment)
  | .null => some []
  | .array items => items.mapM Comment.ofJson
  | _ => none

/-- The comments in a text; what follows the list is not looked at. -/
def commentsOfText (text : Bytes) : Option (List Comment) := (Json.first? text).bind commentsOfJson

/-- What is said about a text that is not a list of comments. -/
def undecodableMessage : Bytes := utf8 "failed to decode comments"

end Marginalia
