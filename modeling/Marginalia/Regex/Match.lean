import Marginalia.Regex.Program

/-!
# Matching

All ways to match are followed side by side, in order of preference.  At each
place of the text the ways are extended over the instructions that read nothing;
of two ways that reach the same instruction at the same place, the preferred one
is kept.  A way that is done ends all ways of lower preference, and a match that
starts earlier is preferred to one that starts later.

Each instruction is entered at most once per place, so the time is bounded by the
product of the sizes of the program and the text.
-/

namespace Marginalia.Regex

set_option autoImplicit false

/-- The bounds of the first group, as numbers of characters from the beginning of the text. -/
structure Bounds where
  start : Option Nat := none
  stop : Option Nat := none
  deriving DecidableEq, Repr, Inhabited

/-- A way to match: the instruction it has come to and the bounds noted on it. -/
structure Thread where
  pc : Nat
  bounds : Bounds
  deriving DecidableEq, Repr, Inhabited

/-- A place in the text: how many characters are before it, and its neighbours. -/
structure Place where
  index : Nat
  before : Option Nat
  after : Option Nat
  deriving DecidableEq, Repr, Inhabited

/-- Is there a word character? -/
def isWordChar (c : Option Nat) : Bool := c.elim false (CharClass.ofRanges CharClass.wordChars).contains

/-- Does an anchor hold at a place? -/
def Anchor.holds (p : Place) : Anchor → Bool
  | .beginText => p.before.isNone
  | .endText => p.after.isNone
  | .beginLine => p.before.isNone || p.before = some 10
  | .endLine => p.after.isNone || p.after = some 10
  | .wordBoundary => isWordChar p.before != isWordChar p.after
  | .noWordBoundary => isWordChar p.before == isWordChar p.after

/-- The ways that one way leads to without reading, in order of preference. -/
def Thread.pass (p : Place) (t : Thread) : Instr → List Thread
  | .check a next => if a.holds p then [{ t with pc := next }] else []
  | .noteStart next => [⟨next, { t.bounds with start := some p.index }⟩]
  | .noteStop next => [⟨next, { t.bounds with stop := some p.index }⟩]
  | .choose first second => [{ t with pc := first }, { t with pc := second }]
  | .read _ _ => []
  | .done => []

/-- Extends ways over everything that reads nothing.  `seen` tells which instructions were entered at
this place; what has come to a reading or final instruction is collected in `out`, last first. -/
def close (code : Code) (p : Place) : (fuel : Nat) → (seen : Array Bool) → List Thread →
    List Thread → List Thread
  | 0, _, _, out => out.reverse
  | _ + 1, _, [], out => out.reverse
  | fuel + 1, seen, t :: ts, out =>
    if seen.getD t.pc true then close code p fuel seen ts out
    else
      let seen := seen.setIfInBounds t.pc true
      match code[t.pc]? with
      | some (.read _ _) | some .done => close code p fuel seen ts (t :: out)
      | some instr => close code p fuel seen (t.pass p instr ++ ts) out
      | none => close code p fuel seen ts out

/-- The ways of a place once they are extended. -/
def settle (code : Code) (p : Place) (ts : List Thread) : List Thread :=
  close code p (ts.length + 2 * code.size + 1) (Array.replicate code.size false) ts []

/-- Reads a character on every way, up to the first that is done; the bounds of that one, if there is
one, are the second result. -/
def advance (code : Code) (c : Option Nat) : List Thread → List Thread × Option Bounds
  | [] => ([], none)
  | t :: ts =>
    match code[t.pc]? with
    | some .done => ([], some t.bounds)
    | some (.read contains next) =>
      let (rest, found) := advance code c ts
      if c.elim false contains then ({ t with pc := next } :: rest, found) else (rest, found)
    | _ => advance code c ts

/-- Follows all ways through the rest of the text.  As long as nothing was found, a new match may
start at each place. -/
def follow (re : Regex) : (rest : List Nat) → (index : Nat) → (before : Option Nat) → List Thread →
    (found : Option Bounds) → Option Bounds
  | rest, index, before, ts, found =>
    let ts := if found.isSome then ts else ts ++ [⟨re.entry, {}⟩]
    let settled := settle re.code ⟨index, before, rest.head?⟩ ts
    let (next, now) := advance re.code rest.head? settled
    let found := now.orElse fun _ => found
    match rest with
    | [] => found
    | c :: rest => follow re rest (index + 1) (some c) next found

/-- The bounds of the first group in the leftmost match, if there is a match. -/
def match? (re : Regex) (text : List Nat) : Option Bounds := follow re text 0 none [] none

/-- The first group in the leftmost match, if there is a match: the number of bytes before it and its
text, which is empty if the group takes no part in the match. -/
def firstGroup? (re : Regex) (text : Bytes) : Option (Nat × Bytes) :=
  let pieces := Utf8.decode text
  (match? re (pieces.map fun p => p.toChar.toNat)).map fun b =>
    match b.start, b.stop with
    | some i, some j =>
      ((Utf8.encode (pieces.take i)).length, Utf8.encode ((pieces.drop i).take (j - i)))
    | _, _ => (0, [])

end Marginalia.Regex
