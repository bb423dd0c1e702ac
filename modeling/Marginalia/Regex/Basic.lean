import Marginalia.Regex.CharClass
import Marginalia.Text.Utf8

/-!
# Regular expressions

The expressions that owner patterns are written in, as trees, and the causes for
which a text is not one.  A repetition prefers many or few iterations; of several
alternatives an earlier one is preferred.
-/

namespace Marginalia.Regex

set_option autoImplicit false

/-- A condition on the place between two characters. -/
inductive Anchor where
  | beginText
  | endText
  | beginLine
  | endLine
  | wordBoundary
  | noWordBoundary
  deriving DecidableEq, Repr, Inhabited

/-- A regular expression. -/
inductive Node where
  | empty
  /-- characters one after the other; with `fold`, case does not matter, and each is the least of those
  that it stands for -/
  | literal (fold : Bool) (chars : List Nat)
  | set (c : CharClass)
  /-- any character, a newline only if so said -/
  | any (newline : Bool)
  | anchor (a : Anchor)
  | capture (group : Nat) (body : Node)
  | cat (parts : List Node)
  | alt (choices : List Node)
  | star (greedy : Bool) (body : Node)
  | plus (greedy : Bool) (body : Node)
  | opt (greedy : Bool) (body : Node)
  /-- at least `least` and at most `most` times, without an upper bound if that is absent -/
  | repeated (least : Nat) (most : Option Nat) (greedy : Bool) (body : Node)
  deriving Inhabited

/-! ## What can be wrong with an expression -/

/-- Why a text is not a regular expression. -/
inductive Cause where
  | charRange
  | escape
  | namedCapture
  | perlSyntax
  | repeatOperator
  | repeatCount
  | encoding
  | bracket
  | paren
  | repeatArgument
  | trailingBackslash
  | unexpectedParen
  | nesting
  | large
  deriving DecidableEq, Repr, Inhabited

/-- The words for a cause. -/
def Cause.message : Cause → Bytes
  | .charRange => utf8 "invalid character class range"
  | .escape => utf8 "invalid escape sequence"
  | .namedCapture => utf8 "invalid named capture"
  | .perlSyntax => utf8 "invalid or unsupported Perl syntax"
  | .repeatOperator => utf8 "invalid nested repetition operator"
  | .repeatCount => utf8 "invalid repeat count"
  | .encoding => utf8 "invalid UTF-8"
  | .bracket => utf8 "missing closing ]"
  | .paren => utf8 "missing closing )"
  | .repeatArgument => utf8 "missing argument to repetition operator"
  | .trailingBackslash => utf8 "trailing backslash at end of expression"
  | .unexpectedParen => utf8 "unexpected )"
  | .nesting => utf8 "expression nests too deeply"
  | .large => utf8 "expression too large"

/-- A cause, and the part of the text it concerns. -/
structure Error where
  cause : Cause
  part : Bytes
  deriving DecidableEq, Repr, Inhabited

/-- The words for an error. -/
def Error.message (e : Error) : Bytes :=
  utf8 "error parsing regexp: " ++ e.cause.message ++ utf8 ": `" ++ e.part ++ utf8 "`"

end Marginalia.Regex
