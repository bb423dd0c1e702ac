import Marginalia.Text.Utf8

/-!
# Json

Json values and their printed form: members and elements on lines of their own,
indented by two blanks for each level.  Texts are printed so that they can stand in
a web page: the characters of markup are escaped, and so are the two separators
that end a line in a script.  A byte that starts no proper encoding is printed as
the escape of the replacement character.
-/

namespace Marginalia

set_option autoImplicit false

/-- A Json value.  A number is kept as it is written. -/
inductive Json where
  | null
  | bool (b : Bool)
  | number (literal : List Char)
  | str (text : Bytes)
  | array (elements : List Json)
  | object (members : List (Bytes × Json))
  deriving Repr, Inhabited

namespace Json

def int : Int → Json
  | .ofNat n => .number (Nat.toDigits 10 n)
  | .negSucc n => .number ('-' :: Nat.toDigits 10 (n + 1))

def nat (n : Nat) : Json := .number (Nat.toDigits 10 n)

/-- A text that is known. -/
def text (s : String) : Json := .str (utf8 s)

/-- The members of an object that are present, in order. -/
def ofMembers (members : List (String × Option Json)) : Json :=
  .object (members.filterMap fun (key, value) => value.map (utf8 key, ·))

/-! ## Printing -/

/-- A hexadecimal digit. -/
def hexChar (n : Nat) : Char := if n < 10 then Char.ofNat (48 + n) else Char.ofNat (87 + n)

/-- The escape of a character by its number. -/
def unicodeEscape (n : Nat) : List Char :=
  ['\\', 'u', hexChar (n / 4096 % 16), hexChar (n / 256 % 16), hexChar (n / 16 % 16), hexChar (n % 16)]

/-- A character inside a text. -/
def escapeChar (c : Char) : List Char :=
  if c = '\x22' then ['\\', c]
  else if c = '\\' then ['\\', c]
  else if c = '\n' then ['\\', 'n']
  else if c = '\r' then ['\\', 'r']
  else if c = '\t' then ['\\', 't']
  else if c.toNat = 8 then ['\\', 'b']
  else if c.toNat = 12 then ['\\', 'f']
  else if c.toNat < 32 ∨ c = '<' ∨ c = '>' ∨ c = '&' ∨ c.toNat = 0x2028 ∨ c.toNat = 0x2029 then
    unicodeEscape c.toNat
  else [c]

/-- A piece of a text. -/
def escapePiece : Piece → List Char
  | .char c => escapeChar c
  | .stray _ => unicodeEscape 0xFFFD

/-- A text in quotes. -/
def quote (s : Bytes) : List Char :=
  '\x22' :: (Utf8.decode s).flatMap escapePiece ++ ['\x22']

/-- A new line at a level. -/
def newLine (depth : Nat) : List Char := '\n' :: List.replicate (2 * depth) ' '

/-- Things with commas between, each on a line of its own. -/
def separated (depth : Nat) : List (List Char) → List Char
  | [] => []
  | [x] => newLine depth ++ x
  | x :: y :: rest => newLine depth ++ x ++ [','] ++ separated depth (y :: rest)

mutual

/-- A value at a level. -/
def render (depth : Nat) : Json → List Char
  | .null => ['n', 'u', 'l', 'l']
  | .bool true => ['t', 'r', 'u', 'e']
  | .bool false => ['f', 'a', 'l', 's', 'e']
  | .number literal => literal
  | .str text => quote text
  | .array [] => ['[', ']']
  | .array (x :: xs) =>
    '[' :: separated (depth + 1) (renderAll (depth + 1) (x :: xs)) ++ newLine depth ++ [']']
  | .object [] => ['{', '}']
  | .object (m :: ms) =>
    '{' :: separated (depth + 1) (renderMembers (depth + 1) (m :: ms)) ++ newLine depth ++ ['}']

def renderAll (depth : Nat) : List Json → List (List Char)
  | [] => []
  | x :: xs => render depth x :: renderAll depth xs

def renderMembers (depth : Nat) : List (Bytes × Json) → List (List Char)
  | [] => []
  | (key, value) :: ms => (quote key ++ [':', ' '] ++ render depth value) :: renderMembers depth ms

end

/-- A document: the value on lines of its own. -/
def document (v : Json) : Bytes := Utf8.ofChars (v.render 0 ++ ['\n'])

end Json

end Marginalia
