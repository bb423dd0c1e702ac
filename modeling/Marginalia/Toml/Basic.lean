import Marginalia.Text.Utf8

/-!
# TOML

The statements of a TOML document as they are written: headers of tables and
assignments.  What they amount to when taken together is a `Toml.Document`.
-/

namespace Marginalia.Toml

set_option autoImplicit false

/-- A dotted key, part by part. -/
abbrev Key := List Bytes

/-- A value as it is written.  Of floats and of points in time it is only known that they are well
formed. -/
inductive Expr where
  | text (s : Bytes)
  | integer (n : Int)
  | bool (b : Bool)
  | float
  | moment
  | array (items : List Expr)
  | table (entries : List (Key × Expr))
  deriving Inhabited

/-- A statement: the header of a table, of a further table in a list of tables, or an assignment. -/
inductive Statement where
  | table (key : Key)
  | tables (key : Key)
  | assign (key : Key) (value : Expr)
  deriving Inhabited

/-! ## Characters -/

def isBlank (c : Char) : Bool := c == ' ' || c == '\t'

def isNewline (c : Char) : Bool := c == '\n' || c == '\r'

def isDigit (c : Char) : Bool := '0' ≤ c && c ≤ '9'

/-- May a character stand in a key without quotes? -/
def isBare (c : Char) : Bool :=
  ('A' ≤ c && c ≤ 'Z') || ('a' ≤ c && c ≤ 'z') || isDigit c || c == '_' || c == '-'

/-- The value of a digit, up to base 16. -/
def digitValue? (c : Char) : Option Nat :=
  if isDigit c then some (c.toNat - '0'.toNat)
  else if 'a' ≤ c && c ≤ 'f' then some (c.toNat - 'a'.toNat + 10)
  else if 'A' ≤ c && c ≤ 'F' then some (c.toNat - 'A'.toNat + 10)
  else none

/-- Is a character a digit of a base? -/
def isDigitOf (base : Nat) (c : Char) : Bool := (digitValue? c).any (· < base)

/-- The number that digits stand for; underscores are skipped. -/
def digitsValue (base : Nat) (cs : List Char) : Nat :=
  (cs.filterMap digitValue?).foldl (fun n d => n * base + d) 0

/-- The rest of a text after a word. -/
def word? : (word cs : List Char) → Option (List Char)
  | [], cs => some cs
  | _ :: _, [] => none
  | w :: word, c :: cs => if w == c then word? word cs else none

def skipBlanks (cs : List Char) : List Char := cs.dropWhile isBlank

/-- Skips blanks, line ends and comments. -/
def skipFiller : (inComment : Bool) → List Char → List Char
  | _, [] => []
  | true, c :: cs => skipFiller (!isNewline c) cs
  | false, c :: cs =>
    if c == '#' then skipFiller true cs
    else if isBlank c || isNewline c then skipFiller false cs
    else c :: cs

end Marginalia.Toml
