import Marginalia.Toml.Basic

/-!
# Strings of TOML

Strings between quotes with escapes, strings between apostrophes without, and both
over several lines between three of them.  A string over several lines may end
with up to two quotes of its own, and a line end after a backslash is left out with
all blanks that follow.
-/

namespace Marginalia.Toml

set_option autoImplicit false

/-- The character that an escape with digits stands for. -/
def scalar? (digits : List Char) : Option Char :=
  if digits.all (isDigitOf 16) then
    let n := digitsValue 16 digits
    if n < 0xD800 || (0xE000 ≤ n && n < 0x110000) then some (Char.ofNat n) else none
  else none

/-- Replaces the escapes. -/
def unescape? : List Char → Option (List Char)
  | [] => some []
  | '\\' :: 'b' :: cs => ('\x08' :: ·) <$> unescape? cs
  | '\\' :: 't' :: cs => ('\t' :: ·) <$> unescape? cs
  | '\\' :: 'n' :: cs => ('\n' :: ·) <$> unescape? cs
  | '\\' :: 'f' :: cs => ('\x0c' :: ·) <$> unescape? cs
  | '\\' :: 'r' :: cs => ('\r' :: ·) <$> unescape? cs
  | '\\' :: '\x22' :: cs => ('\x22' :: ·) <$> unescape? cs
  | '\\' :: '\\' :: cs => ('\\' :: ·) <$> unescape? cs
  | '\\' :: 'u' :: a :: b :: c :: d :: cs => do
    let x ← scalar? [a, b, c, d]
    (x :: ·) <$> unescape? cs
  | '\\' :: 'U' :: a :: b :: c :: d :: e :: f :: g :: h :: cs => do
    let x ← scalar? [a, b, c, d, e, f, g, h]
    (x :: ·) <$> unescape? cs
  | '\\' :: _ => none
  | c :: cs => (c :: ·) <$> unescape? cs

/-- Leaves out a line end after a backslash, and the blanks around it. -/
def joinLines : (cs : List Char) → List Char
  | [] => []
  | '\\' :: '\\' :: cs => '\\' :: '\\' :: joinLines cs
  | '\\' :: cs =>
    if (cs.takeWhile fun c => isBlank c || isNewline c).contains '\n' then
      joinLines (cs.dropWhile fun c => isBlank c || isNewline c)
    else '\\' :: joinLines cs
  | c :: cs => c :: joinLines cs
termination_by cs => cs.length
decreasing_by
  · simp only [List.length_cons]; omega
  · have := (List.dropWhile_suffix (fun c => isBlank c || isNewline c) (l := cs)).length_le
    simp only [List.length_cons]; omega
  · simp only [List.length_cons]; omega
  · simp only [List.length_cons]; omega

/-- A string over several lines does not contain a line end at its very start. -/
def dropFirstNewline : List Char → List Char
  | '\n' :: cs => cs
  | '\r' :: '\n' :: cs => cs
  | cs => cs

/-- Reads up to the closing quote; what was read keeps its escapes. -/
def quotedRest? : List Char → Option (List Char × List Char)
  | [] => none
  | '\x22' :: cs => some ([], cs)
  | '\\' :: c :: cs =>
    if isNewline c then none else (fun r => ('\\' :: c :: r.1, r.2)) <$> quotedRest? cs
  | c :: cs => if isNewline c then none else (fun r => (c :: r.1, r.2)) <$> quotedRest? cs

/-- Reads up to the closing apostrophe. -/
def rawRest? : List Char → Option (List Char × List Char)
  | [] => none
  | c :: cs =>
    if c == '\x27' then some ([], cs)
    else if isNewline c then none
    else (fun r => (c :: r.1, r.2)) <$> rawRest? cs

/-- Reads up to three closing marks.  Of more marks in a row the last three close the string; six are
too many, unless `escaped` marks are among them.  `done` is what was read, last first. -/
def longRest? (mark : Char) (escapes : Bool) : (done : List Char) → List Char →
    Option (List Char × List Char)
  | _, [] => none
  | done, c :: cs =>
    if escapes && c == '\\' then
      match cs with
      | [] => none
      | d :: cs => longRest? mark escapes (d :: c :: done) cs
    else if c == mark && cs.take 2 == [mark, mark] then
      if cs[2]? == some mark then
        if done.take 2 == [mark, mark] && !(escapes && done[2]? == some '\\') then none
        else longRest? mark escapes (c :: done) cs
      else some (done.reverse, cs.drop 2)
    else longRest? mark escapes (c :: done) cs

/-- Reads a string between quotes, after the opening quote. -/
def quotedText? (cs : List Char) : Option (List Char × List Char) := do
  let (raw, cs) ← quotedRest? cs
  return (← unescape? raw, cs)

/-- Reads a string over several lines between quotes, after the opening quotes. -/
def longText? (cs : List Char) : Option (List Char × List Char) := do
  let (raw, cs) ← longRest? '\x22' true [] cs
  return (← unescape? (joinLines (dropFirstNewline raw)), cs)

/-- Reads a string over several lines between apostrophes, after the opening ones. -/
def longRaw? (cs : List Char) : Option (List Char × List Char) := do
  let (raw, cs) ← longRest? '\x27' false [] cs
  return (dropFirstNewline raw, cs)

end Marginalia.Toml
