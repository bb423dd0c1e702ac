import Marginalia.Diagnostic.Severity

/-!
# The vocabulary of diagnostics

Every diagnostic carries a code.  The codes of the vocabulary have a fixed
severity, a category and a title; a code from elsewhere is treated as a
structural error.  Categories to which no code of the vocabulary belongs are
reserved.
-/

namespace Marginalia

set_option autoImplicit false

/-- The kind of problem a diagnostic describes. -/
structure Category where
  name : Bytes
  deriving DecidableEq, Repr, Inhabited

namespace Category

def structural : Category := ⟨utf8 "structure"⟩
def association : Category := ⟨utf8 "association"⟩
def quality : Category := ⟨utf8 "quality"⟩
def consistency : Category := ⟨utf8 "consistency"⟩
def hygiene : Category := ⟨utf8 "hygiene"⟩
def semantic : Category := ⟨utf8 "semantic"⟩

/-- Every category, in order. -/
def all : List Category := [structural, association, quality, consistency, hygiene, semantic]

end Category

/-- The stable identifier of a diagnostic. -/
structure Code where
  text : Bytes
  deriving DecidableEq, Repr, Inhabited

namespace Code

/-- A description marker after the first one. -/
def extraDescription : Code := ⟨utf8 "COMMENT_EXTRA_DESCRIPTION"⟩

/-- A tech-debt marker that gives no reason. -/
def emptyReason : Code := ⟨utf8 "TECHDEBT_EMPTY_REASON"⟩

/-- An example block that holds no example. -/
def emptyExamples : Code := ⟨utf8 "EXAMPLE_EMPTY_BLOCK"⟩

/-- A comment without an owner in a file with several owners. -/
def ambiguous : Code := ⟨utf8 "COMMENT_AMBIGUOUS_UNASSOCIATED"⟩

/-- A block comment that is open at the end of the file. -/
def unterminated : Code := ⟨utf8 "COMMENT_UNTERMINATED_BLOCK"⟩

/-- The codes of the vocabulary, in order. -/
def vocabulary : List Code := [extraDescription, emptyReason, emptyExamples, ambiguous, unterminated]

/-- What the vocabulary fixes for a code. -/
structure Entry where
  severity : Severity
  category : Category
  title : Bytes
  deriving DecidableEq, Repr, Inhabited

/-- The entry of a code of the vocabulary. -/
def entry? (c : Code) : Option Entry :=
  if c = extraDescription then
    some ⟨.warn, .structural, utf8 "Extra description marker"⟩
  else if c = emptyReason then
    some ⟨.warn, .quality, utf8 "Tech-debt marker without a reason"⟩
  else if c = emptyExamples then
    some ⟨.info, .quality, utf8 "Example block without examples"⟩
  else if c = ambiguous then
    some ⟨.info, .association, utf8 "Comment may be attached to the wrong declaration"⟩
  else if c = unterminated then
    some ⟨.error, .structural, utf8 "Unterminated block comment"⟩
  else none

/-- What holds for a code outside the vocabulary. -/
def unknownEntry : Entry := ⟨.error, .structural, utf8 "Unknown diagnostic"⟩

/-- Is the code part of the vocabulary? -/
def known (c : Code) : Bool := c.entry?.isSome

def entry (c : Code) : Entry := c.entry?.getD unknownEntry

/-- The severity that every diagnostic with this code starts with. -/
def severity (c : Code) : Severity := c.entry.severity

def category (c : Code) : Category := c.entry.category

def title (c : Code) : Bytes := c.entry.title

/-- The code as it is printed; the empty code has a name. -/
def display (c : Code) : Bytes := if c.text.isEmpty then utf8 "UNKNOWN" else c.text

end Code

/-- Does no code of the vocabulary have this category? -/
def Category.reserved (c : Category) : Bool :=
  Code.vocabulary.all fun code => code.category ≠ c

end Marginalia
