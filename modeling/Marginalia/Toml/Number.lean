import Marginalia.Toml.Basic

/-!
# Numbers and points in time of TOML

Integers have a range of 64 bits and may be written in base 2, 8, 10 or 16.  Floats
have to fit the usual format of 64 bits.  Points in time are dates, times of the day,
or both, with or without a zone.
-/

namespace Marginalia.Toml

set_option autoImplicit false

/-- Does every underscore stand after a digit, and does the text end with a digit? -/
def underscoresOk : (afterDigit : Bool) → List Char → Bool
  | afterDigit, [] => afterDigit
  | afterDigit, c :: cs => (c != '_' || afterDigit) && underscoresOk (isDigitOf 16 c) cs

/-- A text without its sign, and whether that is a minus. -/
def splitSign : List Char → Bool × List Char
  | '-' :: cs => (true, cs)
  | '+' :: cs => (false, cs)
  | cs => (false, cs)

/-- Does a number start with a zero that is not needed? -/
def leadingZero (literal : List Char) : Bool :=
  match splitSign literal with
  | (_, '0' :: c :: _) => !(literal.head? == some '0' && (c == 'b' || c == 'o' || c == 'x'))
  | _ => false

/-- The integer that a literal stands for. -/
def integer? (literal : List Char) : Option Int :=
  let (negative, digits) := splitSign literal
  let size : Nat := match digits with
    | '0' :: 'b' :: ds => digitsValue 2 ds
    | '0' :: 'o' :: ds => digitsValue 8 ds
    | '0' :: 'x' :: ds => digitsValue 16 ds
    | ds => digitsValue 10 ds
  let n : Int := if negative then -size else size
  if underscoresOk false literal && !leadingZero literal && -0x8000000000000000 ≤ n
      && n < 0x8000000000000000 then some n
  else none

/-- Is a decimal `mantissa * 10 ^ exponent` too large for the format, that is, does it reach half a
unit above the largest number? -/
def tooLarge (mantissa : Nat) (exponent : Int) : Bool :=
  let limit : Nat := Nat.pow 2 1024 - Nat.pow 2 970
  let size : Int := (Nat.toDigits 10 mantissa).length + exponent
  if mantissa = 0 || size < 309 then false
  else if 310 < size then true
  else limit * Nat.pow 10 (-exponent).toNat ≤ mantissa * Nat.pow 10 exponent.toNat

/-- Is every point followed by a digit? -/
def pointsOk : List Char → Bool
  | [] => true
  | '.' :: cs => cs.head?.any isDigit && pointsOk cs
  | _ :: cs => pointsOk cs

def isExponentMark (c : Char) : Bool := c == 'e' || c == 'E'

/-- Is a text a sign and digits, or an empty exponent? -/
def isExponent : List Char → Bool
  | [] => true
  | _ :: cs =>
    let digits := (splitSign cs).2
    !digits.isEmpty && digits.all isDigit

/-- Is a literal a float in range? -/
def isFloat (literal : List Char) : Bool :=
  let isSeparator := fun c => c == '.' || isExponentMark c
  let parts := (literal.splitBy fun a b => !isSeparator a && !isSeparator b).filter
    fun p => !p.all isSeparator
  let plain := literal.filter (· != '_')
  let (_, body) := splitSign plain
  let mantissa := body.takeWhile fun c => !isExponentMark c
  let exponent := body.dropWhile fun c => !isExponentMark c
  let whole := mantissa.takeWhile isDigit
  let fraction := mantissa.dropWhile isDigit
  let places : Int := (fraction.length : Int) - 1
  let (down, power) := splitSign exponent.tail
  let size : Int := digitsValue 10 power
  parts.all (underscoresOk false) && !(parts.head?.any leadingZero) && pointsOk literal
    && !whole.isEmpty && (fraction.isEmpty || (fraction.head? == some '.' && fraction.tail.all isDigit))
    && isExponent exponent
    && !tooLarge (digitsValue 10 mantissa)
      ((if down then -size else size) - (if fraction.isEmpty then 0 else places))

/-! ## Points in time -/

/-- Reads two digits as a number with at most the given value. -/
def two? (most : Nat) : List Char → Option (Nat × List Char)
  | a :: b :: cs =>
    let n := digitsValue 10 [a, b]
    if isDigit a && isDigit b && n ≤ most then some (n, cs) else none
  | _ => none

def isLeap (year : Nat) : Bool := year % 4 = 0 && (year % 100 ≠ 0 || year % 400 = 0)

/-- The number of days of a month. -/
def daysIn (year month : Nat) : Nat :=
  if month = 2 then (if isLeap year then 29 else 28)
  else if [4, 6, 9, 11].contains month then 30
  else 31

def date? : List Char → Option (List Char)
  | a :: b :: c :: d :: '-' :: cs => do
    guard ([a, b, c, d].all isDigit)
    let (month, cs) ← two? 12 cs
    let cs ← word? ['-'] cs
    let (day, cs) ← two? 31 cs
    guard (1 ≤ month && 1 ≤ day && day ≤ daysIn (digitsValue 10 [a, b, c, d]) month)
    return cs
  | _ => none

/-- Reads the hour, which may have one digit only; a single zero is read as a number before that. -/
def hour? (cs : List Char) : Option (List Char) :=
  match cs with
  | a :: ':' :: rest => if isDigit a then some (':' :: rest) else none
  | _ => (two? 23 cs).map Prod.snd

/-- Leaves out the fraction of a second. -/
def skipFraction : List Char → List Char
  | '.' :: c :: cs => if isDigit c then cs.dropWhile isDigit else '.' :: c :: cs
  | cs => cs

def time? (cs : List Char) : Option (List Char) := do
  let cs ← hour? cs
  let cs ← word? [':'] cs
  let (_, cs) ← two? 59 cs
  let cs ← word? [':'] cs
  let (_, cs) ← two? 59 cs
  return skipFraction cs

/-- Is a text a time zone, or empty? -/
def isZone : List Char → Bool
  | [] => true
  | ['Z'] => true
  | sign :: cs =>
    (sign == '+' || sign == '-') &&
      match (two? 24 cs).bind fun r => (word? [':'] r.2).bind (two? 60) with
      | some (_, []) => true
      | _ => false

/-- Is a text a point in time?  Small letters and a blank before the time of the day are allowed. -/
def isMoment (text : List Char) : Bool :=
  let cs := text.map fun c => if c == 'z' then 'Z' else if c == 't' || c == ' ' then 'T' else c
  match date? cs with
  | some [] => true
  | some ('T' :: rest) => (time? rest).any isZone
  | some _ => false
  | none => time? cs == some []

/-! ## Reading -/

def isBaseMark (c : Char) : Bool := c == 'b' || c == 'o' || c == 'x'

def baseOf (c : Char) : Nat := if c == 'b' then 2 else if c == 'o' then 8 else 16

def isFloatChar (c : Char) : Bool :=
  isDigit c || c == '_' || c == '.' || c == '-' || c == '+' || isExponentMark c

def isMomentChar (c : Char) : Bool :=
  isDigit c || ['-', ':', 'T', 't', ' ', '.', 'Z', 'z', '+'].contains c

/-- Reads what may follow the sign and the first digits of a number in base 10. -/
def decimal? (start cs : List Char) : Option (Expr × List Char) :=
  let digits := start ++ cs.takeWhile fun c => isDigit c || c == '_'
  let rest := cs.dropWhile fun c => isDigit c || c == '_'
  if rest.head?.any fun c => c == '.' || isExponentMark c then
    if isFloat (digits ++ rest.takeWhile isFloatChar) then some (.float, rest.dropWhile isFloatChar)
    else none
  else (integer? digits).map fun n => (.integer n, rest)

/-- Reads a number or a point in time that starts with a digit. -/
def numberOrMoment? (cs : List Char) : Option (Expr × List Char) :=
  let digits := cs.takeWhile isDigit
  match cs.dropWhile isDigit with
  | c :: rest =>
    if c == '-' || c == ':' then
      let text := (cs.takeWhile isMomentChar).reverse.dropWhile (· == ' ')
      if digits != ['0'] && isMoment text.reverse then some (.moment, cs.dropWhile isMomentChar)
      else none
    else if digits == ['0'] && isBaseMark c then
      let isPart := fun d => isDigitOf (baseOf c) d || d == '_'
      if rest.head?.any (isDigitOf (baseOf c)) then
        (integer? ('0' :: c :: rest.takeWhile isPart)).map fun n => (.integer n, rest.dropWhile isPart)
      else none
    else decimal? digits (c :: rest)
  | [] => decimal? digits []

/-- Reads a number after its sign. -/
def signed? (sign : Char) (cs : List Char) : Option (Expr × List Char) :=
  match word? ['i', 'n', 'f'] cs, word? ['n', 'a', 'n'] cs with
  | some rest, _ => some (.float, rest)
  | _, some rest => some (.float, rest)
  | none, none =>
    match cs with
    | c :: d :: _ => if isDigit c && !(c == '0' && isBaseMark d) then decimal? [sign] cs else none
    | [c] => if isDigit c then decimal? [sign] cs else none
    | [] => none

end Marginalia.Toml
