import Marginalia.Json.Basic

/-!
# Reading Json

Reads the value at the beginning of a text and gives back what follows it.  A text
in quotes may hold any character but a control character; an escape of half of a
surrogate pair stands for the replacement character.
-/

namespace Marginalia.Json

set_option autoImplicit false

def isBlank (c : Char) : Bool := c == ' ' || c == '\t' || c == '\r' || c == '\n'

/-- Without the blanks at the beginning. -/
def skipBlanks (cs : List Char) : List Char := cs.dropWhile isBlank

def isDigit (c : Char) : Bool := '0' ≤ c && c ≤ '9'

/-- The value of a hexadecimal digit. -/
def hexDigit? (c : Char) : Option Nat :=
  if '0' ≤ c && c ≤ '9' then some (c.toNat - 48)
  else if 'a' ≤ c && c ≤ 'f' then some (c.toNat - 87)
  else if 'A' ≤ c && c ≤ 'F' then some (c.toNat - 55)
  else none

/-- The number of four hexadecimal digits. -/
def hexFour? (a b c d : Char) : Option Nat := do
  return (← hexDigit? a) * 4096 + (← hexDigit? b) * 256 + (← hexDigit? c) * 16 + (← hexDigit? d)

/-- The character that two halves of a surrogate pair stand for. -/
def joinHalves? (high low : Nat) : Option Char :=
  if 0xD800 ≤ high && high < 0xDC00 && 0xDC00 ≤ low && low < 0xE000 then
    some (Char.ofNat (0x10000 + (high - 0xD800) * 1024 + (low - 0xDC00)))
  else none

/-- The character of a number, which is the replacement character for half of a pair. -/
def charOf (n : Nat) : Char := if 0xD800 ≤ n && n < 0xE000 then Piece.replacement else Char.ofNat n

/-- What the character after a backslash stands for, if it is one of the short escapes. -/
def shortEscape? (c : Char) : Option Char :=
  if c = '\x22' ∨ c = '\\' ∨ c = '/' then some c
  else if c = 'b' then some (Char.ofNat 8)
  else if c = 'f' then some (Char.ofNat 12)
  else if c = 'n' then some '\n'
  else if c = 'r' then some '\r'
  else if c = 't' then some '\t'
  else none

/-- The rest of a text in quotes, after the opening quote. -/
def textRest? : List Char → Option (List Char × List Char)
  | '\\' :: 'u' :: a :: b :: c :: d :: '\\' :: 'u' :: e :: f :: g :: h :: rest =>
    match hexFour? a b c d with
    | none => none
    -- If the two are not the halves of a pair, the second is read once more by itself.
    | some high =>
      match (hexFour? e f g h).bind (joinHalves? high) with
      | some joined => (textRest? rest).map fun r => (joined :: r.1, r.2)
      | none =>
        (textRest? ('\\' :: 'u' :: e :: f :: g :: h :: rest)).map fun r => (charOf high :: r.1, r.2)
  | '\\' :: 'u' :: a :: b :: c :: d :: rest =>
    match hexFour? a b c d with
    | none => none
    | some n => (textRest? rest).map fun r => (charOf n :: r.1, r.2)
  | '\\' :: c :: rest =>
    match shortEscape? c with
    | none => none
    | some x => (textRest? rest).map fun r => (x :: r.1, r.2)
  | c :: rest =>
    if c = '\x22' then some ([], rest)
    else if c = '\\' ∨ c.toNat < 32 then none
    else (textRest? rest).map fun r => (c :: r.1, r.2)
  | [] => none

/-- The digits at the beginning, of which there is at least one. -/
def digits? (cs : List Char) : Option (List Char × List Char) :=
  match cs.takeWhile isDigit with
  | [] => none
  | ds => some (ds, cs.dropWhile isDigit)

/-- The whole part of a number: a single zero, or digits that do not start with one. -/
def whole? (cs : List Char) : Option (List Char × List Char) :=
  match cs with
  | '0' :: rest => some (['0'], rest)
  | _ => digits? cs

/-- The part after a point, if there is one. -/
def fraction? (cs : List Char) : Option (List Char × List Char) :=
  match cs with
  | '.' :: rest => (digits? rest).map fun r => ('.' :: r.1, r.2)
  | _ => some ([], cs)

/-- The exponent, if there is one. -/
def exponent? (cs : List Char) : Option (List Char × List Char) :=
  match cs with
  | c :: rest =>
    if c = 'e' ∨ c = 'E' then
      match rest with
      | '+' :: rest => (digits? rest).map fun r => (c :: '+' :: r.1, r.2)
      | '-' :: rest => (digits? rest).map fun r => (c :: '-' :: r.1, r.2)
      | _ => (digits? rest).map fun r => (c :: r.1, r.2)
    else some ([], cs)
  | [] => some ([], [])

/-- The number at the beginning, as it is written. -/
def number? (cs : List Char) : Option (List Char × List Char) := do
  let (sign, cs) := match cs with
    | '-' :: rest => (['-'], rest)
    | _ => ([], cs)
  let (whole, cs) ← whole? cs
  let (fraction, cs) ← fraction? cs
  let (power, cs) ← exponent? cs
  return (sign ++ whole ++ fraction ++ power, cs)

/-- The rest after a word. -/
def word? : (word cs : List Char) → Option (List Char)
  | [], cs => some cs
  | w :: ws, c :: cs => if w = c then word? ws cs else none
  | _ :: _, [] => none

mutual

/-- The value at the beginning, which may have blanks before it, and what follows it. -/
def value? : (fuel : Nat) → List Char → Option (Json × List Char)
  | 0, _ => none
  | fuel + 1, cs =>
    match skipBlanks cs with
    | [] => none
    | c :: rest =>
      if c = '\x22' then (textRest? rest).map fun r => (.str (Utf8.ofChars r.1), r.2)
      else if c = '[' then
        match skipBlanks rest with
        | ']' :: rest => some (.array [], rest)
        | _ => (elements? fuel rest).map fun r => (.array r.1, r.2)
      else if c = '{' then
        match skipBlanks rest with
        | '}' :: rest => some (.object [], rest)
        | _ => (members? fuel rest).map fun r => (.object r.1, r.2)
      else if c = 'n' then (word? ['u', 'l', 'l'] rest).map (.null, ·)
      else if c = 't' then (word? ['r', 'u', 'e'] rest).map (.bool true, ·)
      else if c = 'f' then (word? ['a', 'l', 's', 'e'] rest).map (.bool false, ·)
      else (number? (c :: rest)).map fun r => (.number r.1, r.2)

/-- Elements up to the closing bracket. -/
def elements? : (fuel : Nat) → List Char → Option (List Json × List Char)
  | 0, _ => none
  | fuel + 1, cs =>
    match value? fuel cs with
    | none => none
    | some (v, rest) =>
      match skipBlanks rest with
      | ',' :: rest => (elements? fuel rest).map fun r => (v :: r.1, r.2)
      | ']' :: rest => some ([v], rest)
      | _ => none

/-- Members up to the closing brace. -/
def members? : (fuel : Nat) → List Char → Option (List (Bytes × Json) × List Char)
  | 0, _ => none
  | fuel + 1, cs =>
    match skipBlanks cs with
    | '\x22' :: rest =>
      match textRest? rest with
      | none => none
      | some (key, rest) =>
        match skipBlanks rest with
        | ':' :: rest =>
          match value? fuel rest with
          | none => none
          | some (v, rest) =>
            match skipBlanks rest with
            | ',' :: rest => (members? fuel rest).map fun r => ((Utf8.ofChars key, v) :: r.1, r.2)
            | '}' :: rest => some ([(Utf8.ofChars key, v)], rest)
            | _ => none
        | _ => none
    | _ => none

end

/-- The first value of a text; what follows it is not looked at. -/
def first? (text : Bytes) : Option Json :=
  let cs := Utf8.chars text
  (value? (2 * cs.length + 2) cs).map Prod.fst

end Marginalia.Json
