import Marginalia.Text.Space

/-!
# Examples

An example is written `code // expected`.  The first `//` separates the code
from the expected result; any later one belongs to the result.  A result that is
blank is no result.
-/

namespace Marginalia

set_option autoImplicit false

/-- The parts of one example, and the text they were read from. -/
structure ExampleText where
  code : Bytes
  expected : Option Bytes
  raw : Bytes
  deriving DecidableEq, Repr, Inhabited

namespace ExampleText

/-- What separates the code of an example from its expected result. -/
def separator : Bytes := utf8 "//"

/-- A result, unless it is blank. -/
def result? (text : Bytes) : Option Bytes :=
  let trimmed := text.trim
  if trimmed.isEmpty then none else some trimmed

/-- Reads one example. -/
def ofText (raw : Bytes) : ExampleText :=
  match Bytes.cut separator raw with
  | some (code, expected) => { code := code.trim, expected := result? expected, raw := raw }
  | none => { code := raw.trim, expected := none, raw := raw }

/-- An example in its canonical form. -/
def render (e : ExampleText) : Bytes :=
  match e.expected with
  | none => e.code
  | some expected => e.code ++ utf8 " // " ++ expected

end ExampleText

end Marginalia
