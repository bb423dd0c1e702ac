import Marginalia.Regex.Basic

/-!
# Characters and classes in regular expressions

A character may be written as itself or by an escape.  A class is written by an
escape, by the name of a property, or in brackets as a list of characters, ranges
and named classes.  A mistake is reported with the part of the text that shows it.
-/

namespace Marginalia.Regex

set_option autoImplicit false

/-! ## Characters -/

/-- The next character; what is not UTF-8 is an error. -/
def nextChar (t : Bytes) : Except Error (Nat × Bytes) :=
  match t with
  | [] => .ok (Piece.replacement.toNat, [])
  | b :: rest =>
    match Utf8.step b rest with
    | (.char c, rest) => .ok (c.toNat, rest)
    | (.stray _, _) => .error ⟨.encoding, t⟩

/-- Refuses what is not UTF-8. -/
def checkEncoding (t : Bytes) : Except Error Unit :=
  let rec go : (fuel : Nat) → Bytes → Except Error Unit
    | 0, _ => .ok ()
    | fuel + 1, t =>
      if t.isEmpty then .ok ()
      else
        match nextChar t with
        | .ok (_, rest) => go fuel rest
        | .error e => .error e
  go (t.length + 1) t

/-- The part of `s` before `t`, which is an ending of it. -/
def consumed (s t : Bytes) : Bytes := s.take (s.length - t.length)

def isOctal (b : UInt8) : Bool := 48 ≤ b && b ≤ 55

/-- The value of a hexadecimal digit. -/
def hexOf? (c : Nat) : Option Nat := if c < 128 then Bytes.hexValue? c.toUInt8 else none

/-- Up to `n` octal digits after `value`. -/
def octal : (n value : Nat) → Bytes → Nat × Bytes
  | 0, value, t => (value, t)
  | n + 1, value, b :: t =>
    if isOctal b then octal n (value * 8 + (b.toNat - 48)) t else (value, b :: t)
  | _ + 1, value, [] => (value, [])

/-- Hexadecimal digits up to a closing brace; `none` if there is none, with what was read. -/
def bracedHex : (fuel : Nat) → (digits value : Nat) → Bytes →
    Except Error (Option Nat × Bytes)
  | 0, _, _, t => .ok (none, t)
  | fuel + 1, digits, value, t =>
    if t.isEmpty then .ok (none, t)
    else
      match nextChar t with
      | .error e => .error e
      | .ok (c, t) =>
        if c == 125 then .ok (if digits == 0 then none else some value, t)
        else
          match hexOf? c with
          | none => .ok (none, t)
          | some v =>
            if 0x10FFFF < value * 16 + v then .ok (none, t)
            else bracedHex fuel (digits + 1) (value * 16 + v) t

/-- The character of an escape at the beginning of `s`, with what follows. -/
def parseEscape (s : Bytes) : Except Error (Nat × Bytes) := do
  let t := s.drop 1
  if t.isEmpty then throw ⟨.trailingBackslash, []⟩
  let (c, t) ← nextChar t
  let bad (t : Bytes) : Except Error (Nat × Bytes) := throw ⟨.escape, consumed s t⟩
  if c == 48 then return octal 2 0 t
  else if 49 ≤ c && c ≤ 55 then
    match t with
    | b :: _ => if isOctal b then return octal 2 (c - 48) t else bad t
    | [] => bad t
  else if c == 120 then
    if t.isEmpty then bad t
    else
      let (c, t) ← nextChar t
      if c == 123 then
        match ← bracedHex (t.length + 1) 0 0 t with
        | (some value, t) => return (value, t)
        | (none, t) => bad t
      else
        let x := hexOf? c
        let (c, t) ← nextChar t
        match x, hexOf? c with
        | some x, some y => return (x * 16 + y, t)
        | _, _ => bad t
  else if c == 97 then return (7, t)
  else if c == 102 then return (12, t)
  else if c == 110 then return (10, t)
  else if c == 114 then return (13, t)
  else if c == 116 then return (9, t)
  else if c == 118 then return (11, t)
  else if c < 128 && !(Bytes.isLetter c.toUInt8 || Bytes.isDigit c.toUInt8) then return (c, t)
  else bad t

/-! ## Classes -/

/-- A class named by a property, such as `\p{Greek}`, at the beginning of `s`. -/
def parseProperty (fold : Bool) (s : Bytes) : Except Error (Option (CharClass × Bytes)) := do
  match s with
  | 92 :: p :: t =>
    if p != 112 && p != 80 then return none
    let (c, after) ← nextChar t
    let (seq, name, rest) ← (do
      if c != 123 then
        let seq := consumed s after
        return (seq, seq.drop 2, after)
      else
        match Bytes.cut [125] s with
        | none => do
          checkEncoding s
          throw ⟨.charRange, s⟩
        | some (before, rest) => do
          let name := before.drop 3
          checkEncoding name
          return (before ++ [125], name, rest) : Except Error (Bytes × Bytes × Bytes))
    let (negative, name) :=
      match name with
      | 94 :: name => (p != 80, name)
      | _ => (p == 80, name)
    match CharClass.ofProperty? fold name with
    | none => throw ⟨.charRange, seq⟩
    | some c => return some (CharClass.signed negative c, rest)
  | _ => return none

/-- A class such as `\d` at the beginning of `s`. -/
def parseClassEscape (fold : Bool) (s : Bytes) : Option (CharClass × Bytes) :=
  match s with
  | 92 :: b :: t =>
    (CharClass.ofEscape? b).map fun (negative, rs) =>
      (CharClass.signed negative (CharClass.folded fold (CharClass.ofRanges rs)), t)
  | _ => none

/-- A class such as `[:alpha:]` at the beginning of `s`. -/
def parseNamedClass (fold : Bool) (s : Bytes) : Except Error (Option (CharClass × Bytes)) :=
  match s with
  | 91 :: 58 :: t =>
    match Bytes.cut (utf8 ":]") t with
    | none => .ok none
    | some (name, rest) =>
      match CharClass.ofName? name with
      | none => .error ⟨.charRange, utf8 "[:" ++ name ++ utf8 ":]"⟩
      | some (negative, rs) =>
        .ok (some (CharClass.signed negative (CharClass.folded fold (CharClass.ofRanges rs)), rest))
  | _ => .ok none

/-- A character inside brackets; `whole` is the text from the opening bracket. -/
def parseClassChar (whole s : Bytes) : Except Error (Nat × Bytes) :=
  match s with
  | [] => .error ⟨.bracket, whole⟩
  | 92 :: _ => parseEscape s
  | _ => nextChar s

/-- A character or a range of characters inside brackets. -/
def parseRange (fold : Bool) (whole s : Bytes) : Except Error (CharClass × Bytes) := do
  let (lo, t) ← parseClassChar whole s
  match t with
  | 45 :: b :: rest =>
    if b == 93 then return (CharClass.single fold lo, t)
    let (hi, t) ← parseClassChar whole (b :: rest)
    if hi < lo then throw ⟨.charRange, consumed s t⟩
    return (CharClass.folded fold (CharClass.range lo hi), t)
  | _ => return (CharClass.single fold lo, t)

/-- The members of a class in brackets, up to the closing one, after those in `acc`. -/
def parseMembers (fold : Bool) (whole : Bytes) : (fuel : Nat) → (first : Bool) →
    (acc : List (Nat × Nat)) → Bytes → Except Error (CharClass × Bytes)
  | 0, _, _, _ => .error ⟨.bracket, whole⟩
  | fuel + 1, first, acc, t => do
    match t with
    | 93 :: rest =>
      if !first then return (CharClass.ofRanges acc, rest)
    | _ => pure ()
    let more (c : CharClass) : List (Nat × Nat) := c.ranges.toList ++ acc
    match ← parseNamedClass fold t with
    | some (c, rest) => parseMembers fold whole fuel false (more c) rest
    | none =>
      match ← parseProperty fold t with
      | some (c, rest) => parseMembers fold whole fuel false (more c) rest
      | none =>
        match parseClassEscape fold t with
        | some (c, rest) => parseMembers fold whole fuel false (more c) rest
        | none => do
          let (c, rest) ← parseRange fold whole t
          parseMembers fold whole fuel false (more c) rest

/-- A class in brackets at the beginning of `s`. -/
def parseClass (fold : Bool) (s : Bytes) : Except Error (CharClass × Bytes) := do
  let t := s.drop 1
  let (negative, t) :=
    match t with
    | 94 :: t => (true, t)
    | _ => (false, t)
  let (c, rest) ← parseMembers fold s (t.length + 2) true [] t
  return (CharClass.signed negative c, rest)

end Marginalia.Regex
