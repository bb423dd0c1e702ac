import Marginalia.Text.Chunk
import Marginalia.Unicode.Combining

/-!
# Canonical composition

The composed normal form of Unicode, applied to texts that need not be valid
UTF-8.  A text is taken apart into segments: a character that attaches to nothing
before it, followed by characters that do.  Within a segment every character is
decomposed, the marks are put into canonical order, and what can be composed is
composed again.

Some rules go beyond the normal form.  A stray byte is a character that attaches
to nothing and composes with nothing.  A segment never collects more than thirty
attaching characters: where it would, a grapheme joiner is put in and a new segment
starts.  Compositions are looked up by the low sixteen bits of both characters.  And
the character that marks compose with is chosen anew only when a character comes
that can compose at all: what attaches without composing does not shield it.

Control characters take no part in any of this, so line ends stay where they are.
-/

namespace Marginalia

namespace Normal

set_option autoImplicit false

open Unicode

/-! ## Decomposition and composition of characters -/

/-- The canonical combining class; zero for what is no mark. -/
def combiningClass (p : Piece) : Nat :=
  match p with
  | .char c => (combiningClasses.find? c.toNat).elim 0 fun row => row.values.headD 0
  | .stray _ => 0

/-- Control characters and everything below the space. -/
def isControl (c : Char) : Bool := c.toNat < 0x20

abbrev syllableBase : Nat := 0xAC00
abbrev leadBase : Nat := 0x1100
abbrev vowelBase : Nat := 0x1161
abbrev tailBase : Nat := 0x11A7

/-- Is it a composed Hangul syllable? -/
def isSyllable (n : Nat) : Bool := syllableBase ≤ n && n < syllableBase + 11172

/-- The canonical decomposition of one step.  A row of the table that would touch a control
character is not used. -/
def decomposition? (c : Char) : Option (List Char) :=
  let n := c.toNat
  if isControl c then none
  else if isSyllable n then
    let i := n - syllableBase
    let syllable := [Char.ofNat (leadBase + i / 588), Char.ofNat (vowelBase + i % 588 / 28)]
    let parts := if i % 28 == 0 then syllable else syllable ++ [Char.ofNat (tailBase + i % 28)]
    if parts.any isControl then none else some parts
  else
    match decompositions.find? n with
    | some row =>
      let parts := row.values.map Char.ofNat
      if parts.any isControl then none else some parts
    | none => none

/-- The full canonical decomposition, in at most `fuel` steps. -/
def decomposeChar : (fuel : Nat) → Char → List Char
  | 0, c => [c]
  | fuel + 1, c =>
    match decomposition? c with
    | some parts => parts.flatMap (decomposeChar fuel)
    | none => [c]

/-- No decomposition of the standard takes more steps. -/
def decompositionSteps : Nat := 8

/-- The full canonical decomposition of a piece. -/
def decompose : Piece → List Piece
  | .char c => (decomposeChar decompositionSteps c).map .char
  | .stray b => [.stray b]

/-- A number for the low sixteen bits of a pair of code points. -/
def pairKey (a b : Nat) : Nat := a % 0x10000 * 0x10000 + b % 0x10000

/-- The pairs that compose, with the characters they compose to. -/
def composingPairs : List (Nat × Nat × Nat) :=
  decompositions.rows.toList.filterMap fun row =>
    match row.values with
    | [a, b] => if compositionExclusions.contains row.lo then none else some (a, b, row.lo)
    | _ => none

/-- The characters that two characters compose to, by the number of the pair. -/
def compositions : Table :=
  Table.ofRows (composingPairs.map fun (a, b, c) =>
    { lo := pairKey a b, hi := pairKey a b, values := [c] })

/-- The characters other than Hangul that can come second in a composition. -/
def secondParts : Table :=
  Table.ofRows ((composingPairs.map fun (_, b, _) => b).eraseDups.map fun b =>
    { lo := b, hi := b, values := [] })

/-- Is it one of the letters that Hangul syllables consist of? -/
def isJamo (n : Nat) : Bool := leadBase ≤ n && n < leadBase + 0x100

/-- Is it a vowel or final consonant of a Hangul syllable? -/
def endsSyllable (n : Nat) : Bool :=
  (vowelBase ≤ n && n < vowelBase + 21) || (tailBase < n && n < tailBase + 28)

/-- Can a piece come second in a composition? -/
def composesBackward : Piece → Bool
  | .char c => endsSyllable c.toNat
      || (secondParts.contains c.toNat && !compositionExclusions.contains c.toNat)
  | .stray _ => false

/-- What two characters compose to, Hangul apart. -/
def composeChars (a b : Char) : Option Char :=
  if isControl a || isControl b then none
  else
    match compositions.find? (pairKey a.toNat b.toNat) with
    | some row =>
      let c := Char.ofNat (row.values.headD 0)
      if isControl c then none else some c
    | none => none

/-- The Hangul syllable that a consonant and a vowel, or a syllable and a final consonant, compose
to. -/
def composeHangul (a b : Char) : Option Char :=
  let m := a.toNat
  let n := b.toNat
  if leadBase ≤ m && m < leadBase + 19 && vowelBase ≤ n && n < vowelBase + 21 then
    some (Char.ofNat (syllableBase + (m - leadBase) * 588 + (n - vowelBase) * 28))
  else if isSyllable m && (m - syllableBase) % 28 == 0 && tailBase < n && n < tailBase + 28 then
    some (Char.ofNat (m + n - tailBase))
  else none

/-- What two pieces compose to by a rule for characters; a stray byte composes with nothing. -/
def compose? (rule : Char → Char → Option Char) : Piece → Piece → Option Piece
  | .char a, .char b => (rule a b).map .char
  | _, _ => none

/-! ## One segment -/

/-- Puts a piece behind the pieces of a segment, before the marks of a higher class. -/
def insert (segment : List Piece) (p : Piece) : List Piece :=
  let k := combiningClass p
  if k == 0 then segment ++ [p]
  else
    -- Marks of the same class stay in the order in which they came.
    let later := (segment.reverse.takeWhile fun q => k < combiningClass q).reverse
    segment.take (segment.length - later.length) ++ [p] ++ later

/-- A segment being composed: what is finished, the piece that others compose with, and the pieces
kept behind it. -/
structure Composing where
  done : List Piece
  base : Piece
  kept : List Piece

namespace Composing

/-- The pieces of a segment being composed. -/
def pieces (s : Composing) : List Piece := s.done ++ [s.base] ++ s.kept

/-- Keeps a piece that does not compose. -/
def keep (s : Composing) (p : Piece) : Composing := { s with kept := s.kept ++ [p] }

/-- Lets the last piece kept be the base, if it is no mark. -/
def refocus (s : Composing) : Composing :=
  match s.kept.getLast? with
  | none => s
  | some q => if combiningClass q == 0 then ⟨s.done ++ s.base :: s.kept.dropLast, q, []⟩ else s

/-- Is a piece cut off from the base by the last piece kept? -/
def blocked (s : Composing) (p : Piece) : Bool :=
  match s.kept.getLast? with
  | none => false
  | some q => combiningClass p ≤ combiningClass q

/-- Composes a piece with the base by a rule, or keeps it. -/
def join (rule : Char → Char → Option Char) (s : Composing) (p : Piece) : Composing :=
  let s := s.refocus
  if s.blocked p then s.keep p
  else
    match compose? rule s.base p with
    | some q => { s with base := q }
    | none => s.keep p

/-- Takes the rest of a segment.  From the first letter of a Hangul syllable on, only Hangul is
composed. -/
def run (s : Composing) : List Piece → Composing
  | [] => s
  | p :: ps =>
    if (match p with | .char c => isJamo c.toNat | .stray _ => false) then
      (p :: ps).foldl (join composeHangul) s
    else if composesBackward p then run (s.join composeChars p) ps
    else run (s.keep p) ps

end Composing

/-- Composes what can be composed in a segment. -/
def composeSegment : List Piece → List Piece
  | [] => []
  | p :: ps => (Composing.run ⟨[], p, []⟩ ps).pieces

/-- The finished pieces and the segment in the making after one more character.  A part of its
decomposition that attaches to nothing starts a segment of its own. -/
def absorb (finished segment : List Piece) (p : Piece) : List Piece × List Piece :=
  match decompose p with
  | [q] => (finished, insert segment q)
  | parts =>
    let hangul := match p with | .char c => isSyllable c.toNat | .stray _ => false
    parts.foldl (fun (finished, segment) q =>
      if !hangul && combiningClass q == 0 && !composesBackward q then
        (finished ++ composeSegment segment, [q])
      else (finished, insert segment q)) (finished, segment)

/-! ## A whole text -/

/-- How many attaching characters the decomposition of a piece begins and ends with. -/
def attaching (p : Piece) : Nat × Nat :=
  match p with
  | .stray _ => (0, 0)
  | .char c =>
    if isSyllable c.toNat then (0, if (c.toNat - syllableBase) % 28 == 0 then 1 else 2)
    else
      match attachingCounts.find? c.toNat with
      | some row => (row.values.headD 0, row.values.getD 1 0)
      | none => (0, 0)

/-- How many attaching characters a segment may collect. -/
def attachingLimit : Nat := 30

/-- The grapheme joiner, which ends a segment that has become too long. -/
def joiner : Piece := .char (Char.ofNat 0x34F)

/-- The pieces of a text in normal form, after a segment in the making with the number of attaching
characters it has collected. -/
def normalizeFrom (segment : List Piece) (count : Nat) : List Piece → List Piece
  | [] => composeSegment segment
  | p :: ps =>
    -- Three cases: the segment is full, the piece starts a new one, the piece attaches.
    let (lead, trail) := attaching p
    if attachingLimit < count + lead then
      let (finished, next) := absorb [] [] p
      composeSegment (segment ++ [joiner]) ++ finished ++ normalizeFrom next lead ps
    else if lead == 0 then
      let (finished, next) := absorb [] [] p
      composeSegment segment ++ finished ++ normalizeFrom next trail ps
    else
      let (finished, next) := absorb [] segment p
      finished ++ normalizeFrom next (count + lead) ps

end Normal

namespace Bytes

/-- The text in the composed normal form.  A character that the text ends within, and all after its
first byte, are left alone. -/
def compose (s : Bytes) : Bytes :=
  let (chunks, left) := Chunk.read s
  Utf8.encode (Normal.normalizeFrom [] 0 (chunks.flatMap Chunk.pieces)) ++ left

end Bytes

end Marginalia
