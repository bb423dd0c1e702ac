import Marginalia.Toml.Number
import Marginalia.Toml.Text

/-!
# Reading TOML

From a text to its statements.  A text that is not UTF-8, or that contains control
characters other than tabs and line ends, is no document.
-/

namespace Marginalia.Toml

set_option autoImplicit false

/-! ## Keys -/

/-- Reads one part of a key. -/
def keyPart? (cs : List Char) : Option (Bytes × List Char) :=
  match skipBlanks cs with
  | [] => none
  | c :: rest =>
    if c == '\x22' then (quotedText? rest).map fun r => (Utf8.ofChars r.1, r.2)
    else if c == '\x27' then (rawRest? rest).map fun r => (Utf8.ofChars r.1, r.2)
    else if isBare c then
      some (Utf8.ofChars ((c :: rest).takeWhile isBare), (c :: rest).dropWhile isBare)
    else none

/-- Reads a dotted key and the blanks after it. -/
def key? : (fuel : Nat) → List Char → Option (Key × List Char)
  | 0, _ => none
  | fuel + 1, cs => do
    let (part, cs) ← keyPart? cs
    match skipBlanks cs with
    | '.' :: cs =>
      let (key, cs) ← key? fuel cs
      return (part :: key, cs)
    | cs => return ([part], cs)

/-! ## Values -/

/-- Reads a value that has no values inside. -/
def scalarValue? (c : Char) (cs : List Char) : Option (Expr × List Char) :=
  let text (r : List Char × List Char) : Expr × List Char := (.text (Utf8.ofChars r.1), r.2)
  if c == '\x22' then
    match word? ['\x22', '\x22'] cs with
    | some cs => (longText? cs).map text
    | none => (quotedText? cs).map text
  else if c == '\x27' then
    match word? ['\x27', '\x27'] cs with
    | some cs => (longRaw? cs).map text
    | none => (rawRest? cs).map text
  else if isDigit c then numberOrMoment? (c :: cs)
  else if c == '+' || c == '-' then signed? c cs
  else if c == 't' then (word? ['r', 'u', 'e'] cs).map fun cs => (.bool true, cs)
  else if c == 'f' then (word? ['a', 'l', 's', 'e'] cs).map fun cs => (.bool false, cs)
  else if c == 'i' then (word? ['n', 'f'] cs).map fun cs => (.float, cs)
  else if c == 'n' then (word? ['a', 'n'] cs).map fun cs => (.float, cs)
  else none

mutual

/-- Reads a value, after blanks. -/
def value? : (fuel : Nat) → List Char → Option (Expr × List Char)
  | 0, _ => none
  | fuel + 1, cs =>
    match skipBlanks cs with
    | [] => none
    | c :: cs =>
      if c == '[' then (items? fuel cs).map fun r => (.array r.1, r.2)
      else if c == '\x7b' then
        match skipBlanks cs with
        | '\x7d' :: cs => some (.table [], cs)
        | cs => (entries? fuel cs).map fun r => (.table r.1, r.2)
      else scalarValue? c cs

/-- Reads the items of an array and its closing bracket.  A comma may follow the last item, and lines
may end anywhere between items. -/
def items? : (fuel : Nat) → List Char → Option (List Expr × List Char)
  | 0, _ => none
  | fuel + 1, cs =>
    match skipFiller false cs with
    | ']' :: cs => some ([], cs)
    | cs => do
      let (item, cs) ← value? fuel cs
      match skipFiller false cs with
      | ',' :: cs =>
        let (items, cs) ← items? fuel cs
        return (item :: items, cs)
      | ']' :: cs => return ([item], cs)
      | _ => none

/-- Reads the entries of a table within a line, of which there is at least one, and its closing
brace. -/
def entries? : (fuel : Nat) → List Char → Option (List (Key × Expr) × List Char)
  | 0, _ => none
  | fuel + 1, cs => do
    let (key, cs) ← key? fuel cs
    let cs ← word? ['='] cs
    let (value, cs) ← value? fuel cs
    match skipBlanks cs with
    | ',' :: cs =>
      let (entries, cs) ← entries? fuel cs
      return ((key, value) :: entries, cs)
    | '\x7d' :: cs => return ([(key, value)], cs)
    | _ => none

end

/-! ## Statements -/

/-- Reads one statement, whose first character is not a blank. -/
def statement? (fuel : Nat) (cs : List Char) : Option (Statement × List Char) :=
  match cs with
  | '[' :: '[' :: cs => do
    let (key, cs) ← key? fuel cs
    let cs ← word? [']', ']'] cs
    return (.tables key, cs)
  | '[' :: cs => do
    let (key, cs) ← key? fuel cs
    let cs ← word? [']'] cs
    return (.table key, cs)
  | cs => do
    let (key, cs) ← key? fuel cs
    let cs ← word? ['='] cs
    let (value, cs) ← value? fuel cs
    return (.assign key value, cs)

/-- Reads statements to the end of the text; each ends its line, but for a comment. -/
def statements? : (fuel : Nat) → List Char → Option (List Statement)
  | 0, _ => none
  | fuel + 1, cs =>
    match skipFiller false cs with
    | [] => some []
    | cs => do
      let (statement, cs) ← statement? fuel cs
      match skipBlanks cs with
      | [] => return [statement]
      | c :: cs =>
        if c == '#' || isNewline c then
          let statements ← statements? fuel (c :: cs)
          return statement :: statements
        else none

/-- A text without a byte order mark. -/
def dropMark (text : Bytes) : Bytes :=
  match text with
  -- The marks of UTF-16 go as well, although the rest is then hardly UTF-8.
  | 0xFF :: 0xFE :: rest => rest
  | 0xFE :: 0xFF :: rest => rest
  | 0xEF :: 0xBB :: 0xBF :: rest => rest
  | _ => text

/-- Are the control characters among the characters allowed ones?  A carriage return stands before a
line feed only. -/
def controlsOk : List Char → Bool
  | [] => true
  | '\r' :: cs => cs.head? == some '\n' && controlsOk cs
  | c :: cs => (c == '\t' || c == '\n' || (0x20 ≤ c.toNat && c.toNat != 0x7F)) && controlsOk cs

/-- The statements of a document. -/
def statementsOfText? (text : Bytes) : Option (List Statement) :=
  let text := dropMark text
  let cs := Utf8.chars text
  if !cs.contains Piece.replacement && controlsOk cs then statements? (cs.length + 1) cs else none

end Marginalia.Toml
