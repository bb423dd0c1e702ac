import Marginalia.Regex.Parse

/-!
# Programs of regular expressions

An expression becomes a list of instructions that refer to each other by index.
An instruction either reads a character, or passes on without reading one: it
checks an anchor, notes a bound of the first group, or tries one way before
another.  Expressions are laid out from back to front, so that each is given the
instruction that follows it.

A loop around a body that may read nothing is laid out as "once or more, or not
at all": the body is then tried before the loop is left, also where it reads
nothing.
-/

namespace Marginalia.Regex

set_option autoImplicit false

/-- An instruction; `next` is the one that follows. -/
inductive Instr where
  | read (contains : Nat → Bool) (next : Nat)
  | check (a : Anchor) (next : Nat)
  | noteStart (next : Nat)
  | noteStop (next : Nat)
  | choose (first second : Nat)
  | done
  deriving Inhabited

abbrev Code := Array Instr

mutual

/-- May the expression match without reading a character? -/
def Node.nullable : Node → Bool
  | .empty => true
  | .literal _ chars => chars.isEmpty
  | .set _ => false
  | .any _ => false
  | .anchor _ => true
  | .capture _ body => body.nullable
  | .cat parts => Node.allNullable parts
  | .alt choices => Node.anyNullable choices
  | .star _ _ => true
  | .plus _ body => body.nullable
  | .opt _ _ => true
  | .repeated least _ _ body => least == 0 || body.nullable

/-- May all of the expressions? -/
def Node.allNullable : List Node → Bool
  | [] => true
  | n :: ns => n.nullable && Node.allNullable ns

/-- May one of the expressions? -/
def Node.anyNullable : List Node → Bool
  | [] => false
  | n :: ns => n.nullable || Node.anyNullable ns

end

/-- A way to lay something out in front of the instruction `next`: the code after that, and where it
is entered. -/
abbrev Layout := (next : Nat) → Code → Code × Nat

namespace Layout

/-- Adds one instruction. -/
def single (instr : Nat → Instr) : Layout := fun next code =>
  let here := code.size
  (code.push (instr next), here)

def nothing : Layout := fun next code => (code, next)

/-- One after the other. -/
def append (a b : Layout) : Layout := fun next code =>
  let (code, mid) := b next code
  a mid code

/-- A choice between going in and going past; the preferred way comes first. -/
def branch (greedy : Bool) (inside outside : Nat) : Instr :=
  if greedy then .choose inside outside else .choose outside inside

/-- At most once. -/
def optional (greedy : Bool) (body : Layout) : Layout := fun next code =>
  let (code, entry) := body next code
  let here := code.size
  (code.push (branch greedy entry next), here)

/-- Any number of times, the choice coming first. -/
def loop (greedy : Bool) (body : Layout) : Layout := fun next code =>
  let here := code.size
  let (code, entry) := body here (code.push .done)
  (code.setIfInBounds here (branch greedy entry next), here)

/-- Once or more, the choice coming last. -/
def atLeastOnce (greedy : Bool) (body : Layout) : Layout := fun next code =>
  let here := code.size
  let (code, entry) := body here (code.push .done)
  (code.setIfInBounds here (branch greedy entry next), entry)

/-- `n` times. -/
def times (body : Layout) : Nat → Layout
  | 0 => nothing
  | n + 1 => append body (times body n)

/-- At most `n` times; every way out leads to `next` at once. -/
def atMost (greedy : Bool) (body : Layout) : Nat → Layout
  | 0 => nothing
  | n + 1 => fun next code =>
    let (code, rest) := atMost greedy body n next code
    let (code, entry) := body rest code
    let here := code.size
    (code.push (branch greedy entry next), here)

end Layout

/-- Any number of times. -/
def Layout.star (nullable greedy : Bool) (body : Layout) : Layout :=
  if nullable then .optional greedy (.atLeastOnce greedy body) else .loop greedy body

/-- A choice between two. -/
def Layout.either (a b : Layout) : Layout := fun next code =>
  let (code, second) := b next code
  let (code, first) := a next code
  let here := code.size
  (code.push (.choose first second), here)

/-- Characters one after the other. -/
def Layout.chars (fold : Bool) : List Nat → Layout
  | [] => .nothing
  | c :: cs =>
    .append (.single (.read (if fold then (Unicode.foldClass c).contains else (· == c))))
      (Layout.chars fold cs)

mutual

/-- How an expression is laid out.  Only the bounds of the first group are noted. -/
def Node.layout : Node → Layout
  | .empty => .nothing
  | .literal fold chars => .chars fold chars
  | .set c => .single (.read c.contains)
  | .any newline => .single (.read fun n => newline || n != 10)
  | .anchor a => .single (.check a)
  | .capture group body =>
    if group = 1 then .append (.single .noteStart) (.append body.layout (.single .noteStop))
    else body.layout
  | .cat parts => Node.layoutAll parts
  | .alt choices => Node.layoutAny choices
  | .star greedy body => .star body.nullable greedy body.layout
  | .plus greedy body => .atLeastOnce greedy body.layout
  | .opt greedy body => .optional greedy body.layout
  | .repeated 0 none greedy body => .star body.nullable greedy body.layout
  | .repeated (least + 1) none greedy body =>
    .append (.times body.layout least) (.atLeastOnce greedy body.layout)
  | .repeated least (some most) greedy body =>
    .append (.times body.layout least) (.atMost greedy body.layout (most - least))

/-- Expressions one after the other. -/
def Node.layoutAll : List Node → Layout
  | [] => .nothing
  | n :: ns => .append n.layout (Node.layoutAll ns)

/-- A choice between expressions. -/
def Node.layoutAny : List Node → Layout
  | [] => .nothing
  | [n] => n.layout
  | n :: ns => .either n.layout (Node.layoutAny ns)

end

end Marginalia.Regex

namespace Marginalia

/-- A regular expression that is ready to match. -/
structure Regex where
  code : Regex.Code
  /-- the instruction at which matching starts -/
  entry : Nat
  /-- how many groups the expression has -/
  groups : Nat
  deriving Inhabited

/-- The program of an expression. -/
def Regex.ofNode (node : Regex.Node) (groups : Nat) : Regex :=
  let (code, entry) := node.layout 0 #[.done]
  { code, entry, groups }

/-- The program of an expression given as a text. -/
def Regex.compile (source : Bytes) : Except Regex.Error Regex :=
  (Regex.parse source).map fun (node, groups) => Regex.ofNode node groups

end Marginalia
