import Marginalia.Text.Utf8
import Marginalia.Unicode.Category

/-!
# Literals and names of Go

The written forms of names, numbers, character and text literals, as functions
that take the characters from the start of one and give back those that belong to
it.  Each gives nothing if what stands there is not well formed.
-/

namespace Marginalia.Outline

set_option autoImplicit false

/-- The digits of the decimal system. -/
def isDecimal (c : Char) : Bool := '0' ≤ c && c ≤ '9'

/-- The lower case of a letter of ASCII. -/
def lowerLetter (c : Char) : Char := if 'A' ≤ c && c ≤ 'Z' then Char.ofNat (c.toNat + 32) else c

def isHexDigit (c : Char) : Bool := isDecimal c || ('a' ≤ lowerLetter c && lowerLetter c ≤ 'f')

/-- The value of a digit, and sixteen for what is not a digit. -/
def digitValue (c : Char) : Nat :=
  if isDecimal c then c.toNat - 48
  else if isHexDigit c then (lowerLetter c).toNat - 87
  else 16

/-- What a name may start with. -/
def isNameStart (c : Char) : Bool :=
  ('a' ≤ lowerLetter c && lowerLetter c ≤ 'z') || c == '_' || (128 ≤ c.toNat && Unicode.isLetter c)

/-- What a name may go on with. -/
def isNamePart (c : Char) : Bool :=
  isNameStart c || isDecimal c || (128 ≤ c.toNat && Unicode.isDecimalDigit c)

/-! ## Numbers -/

/-- What a number starts with. -/
inductive Radix where
  | decimal
  /-- a zero that is followed by more digits -/
  | zero
  | binary
  | octal
  | hexadecimal
  deriving DecidableEq, Repr, Inhabited

/-- The digits that a whole number may have. -/
def Radix.size : Radix → Nat
  | .decimal => 10
  | .zero => 8
  | .binary => 2
  | .octal => 8
  | .hexadecimal => 16

/-- The radix that a number starts with, and the characters that say so. -/
def radixOf : List Char → Radix × List Char
  | '0' :: x :: _ =>
    match lowerLetter x with
    | 'x' => (.hexadecimal, ['0', x])
    | 'o' => (.octal, ['0', x])
    | 'b' => (.binary, ['0', x])
    | _ => (.zero, [])
  | ['0'] => (.zero, [])
  | _ => (.decimal, [])

/-- The digits and separators at the beginning; outside the hexadecimal system all decimal digits are
taken. -/
def digitRun (radix : Radix) (cs : List Char) : List Char :=
  cs.takeWhile fun c => c == '_' || if radix = .hexadecimal then isHexDigit c else isDecimal c

/-- Does every separator stand between two digits?  `digit` says whether a digit came just before, and
`separator` whether a separator did. -/
def separated (hex : Bool) : (digit separator : Bool) → List Char → Bool
  | _, separator, [] => !separator
  | digit, separator, c :: rest =>
    if c = '_' then digit && separated hex false true rest
    else if isDecimal c || (hex && isHexDigit c) then separated hex true false rest
    else !separator && separated hex false false rest

/-- The exponent at the beginning, which is empty if there is none.  A decimal one needs a decimal
number, a binary one a hexadecimal number, and either needs a digit. -/
def exponent? (radix : Radix) (cs : List Char) : Option (List Char) :=
  match cs with
  | [] => some []
  | e :: rest =>
    let allowed := match lowerLetter e with
      | 'e' => some (radix = .decimal ∨ radix = .zero : Bool)
      | 'p' => some (radix = .hexadecimal : Bool)
      | _ => none
    match allowed with
    | none => some []
    | some false => none
    | some true =>
      let sign := match rest with
        | '+' :: _ => ['+']
        | '-' :: _ => ['-']
        | _ => []
      let digits := digitRun .decimal (rest.drop sign.length)
      if digits.any isDecimal then some (e :: sign ++ digits) else none

/-- The number at the beginning. -/
def number? (cs : List Char) : Option (List Char) := do
  let (radix, lead) := radixOf cs
  let whole := digitRun radix (cs.drop lead.length)
  let rest := cs.drop (lead.length + whole.length)
  let fraction := match rest with
    | '.' :: rest => '.' :: digitRun radix rest
    | _ => []
  let point := !fraction.isEmpty
  let power ← exponent? radix (rest.drop fraction.length)
  let suffix := match rest.drop (fraction.length + power.length) with
    | 'i' :: _ => ['i']
    | _ => []
  let literal := lead ++ whole ++ fraction ++ power ++ suffix
  let isWhole := !point && power.isEmpty && suffix.isEmpty
  -- The number was read as far as it goes.  Now it is judged, and no shorter one is tried.
  guard !(point && (radix = .octal ∨ radix = .binary : Bool))
  guard ((whole ++ fraction).any isHexDigit)
  guard !(radix = .hexadecimal && point && power.isEmpty)
  -- Only now the digits are held against the radix: a leading zero may still start a fraction.
  guard (!isWhole || whole.all fun c => c == '_' || digitValue c < radix.size)
  guard (!literal.contains '_'
    || separated (radix = .hexadecimal) (!lead.isEmpty) false (literal.drop lead.length))
  return literal

/-! ## Characters and texts -/

/-- The value of digits in a base, if they are digits of it. -/
def valueOf? (base : Nat) (cs : List Char) : Option Nat :=
  if cs.all fun c => digitValue c < base then some (cs.foldl (fun n c => n * base + digitValue c) 0)
  else none

/-- Exactly `n` digits of a base, with a value that is at most `most` and not half of a pair. -/
def codeDigits (n base most : Nat) (cs : List Char) : Bool :=
  (cs.take n).length = n
    && (valueOf? base (cs.take n)).elim false fun v => v ≤ most && !(0xD800 ≤ v && v < 0xE000)

/-- The number of characters that belong to an escape after its backslash. -/
def escapeLength? (quote : Char) (cs : List Char) : Option Nat :=
  match cs with
  | [] => none
  | c :: rest =>
    if c == quote || ['a', 'b', 'f', 'n', 'r', 't', 'v', '\\'].contains c then some 1
    else if '0' ≤ c && c ≤ '7' then if codeDigits 3 8 255 cs then some 3 else none
    else if c == 'x' then if codeDigits 2 16 255 rest then some 3 else none
    else if c == 'u' then if codeDigits 4 16 0x10FFFF rest then some 5 else none
    else if c == 'U' then if codeDigits 8 16 0x10FFFF rest then some 9 else none
    else none

/-- The rest of a text literal, up to and with the closing quote; the first `skip` characters belong to
an escape. -/
def textRest? : (skip : Nat) → List Char → Option (List Char)
  | _, [] => none
  | skip + 1, c :: rest => (textRest? skip rest).map (c :: ·)
  | 0, c :: rest =>
    if c = '\n' then none
    else if c = '\x22' then some [c]
    else if c = '\\' then
      match escapeLength? '\x22' rest with
      | some n => (textRest? n rest).map (c :: ·)
      | none => none
    else (textRest? 0 rest).map (c :: ·)

/-- The rest of a character literal: one character or escape, and the closing quote. -/
def charRest? : List Char → Option (List Char)
  | '\\' :: rest =>
    match escapeLength? '\x27' rest with
    | some n => if rest[n]? = some '\x27' then some ('\\' :: rest.take (n + 1)) else none
    | none => none
  | c :: '\x27' :: _ => if c = '\n' ∨ c = '\x27' then none else some [c, '\x27']
  | _ => none

/-- The rest of a raw text literal, up to and with the closing mark. -/
def rawRest? : List Char → Option (List Char)
  | [] => none
  | c :: rest => if c.toNat = 96 then some [c] else (rawRest? rest).map (c :: ·)

/-! ## Comments -/

/-- The rest of a block comment, up to and with its end. -/
def blockRest? : List Char → Option (List Char)
  | [] => none
  | ['*', '/'] => some ['*', '/']
  | '*' :: '/' :: _ => some ['*', '/']
  | c :: rest => (blockRest? rest).map (c :: ·)

/-- The text before the last colon, and the number after it if it is one. -/
def lastNumber? (text : List Char) : Option (List Char × Option Nat) :=
  if text.contains ':' then
    let digits := (text.reverse.takeWhile (· ≠ ':')).reverse
    let before := text.take (text.length - digits.length - 1)
    let value := if digits.isEmpty || !digits.all isDecimal then none
      else (valueOf? 10 digits).filter (· < UInt64.size)
    some (before, value)
  else none

/-- A line or column number: not zero, and not between 2^30 and 2^63. -/
def placeNumber (n : Nat) : Bool := n != 0 && !(0x40000000 < n && n < 0x8000000000000000)

/-- Is the text after `line` in a line directive well formed?  A text without a colon is not a
directive, which is fine as well. -/
def directiveOk (text : List Char) : Bool :=
  match lastNumber? text with
  | none => true
  | some (_, none) => false
  | some (before, some n) =>
    match lastNumber? before with
    | some (_, some m) => placeNumber n && placeNumber m
    | _ => placeNumber n

/-- Is the comment, if it is a line directive, a well-formed one?  One that runs to the end of the line
counts only at the beginning of a line. -/
def commentOk (atLineStart : Bool) (comment : List Char) : Bool :=
  match comment with
  | '/' :: '*' :: 'l' :: 'i' :: 'n' :: 'e' :: ' ' :: rest => directiveOk (rest.take (rest.length - 2))
  | '/' :: '/' :: 'l' :: 'i' :: 'n' :: 'e' :: ' ' :: rest =>
    !atLineStart || directiveOk (if rest.getLast? = some '\r' then rest.dropLast else rest)
  | _ => true

end Marginalia.Outline
