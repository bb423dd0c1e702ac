import Marginalia.Regex.Basic

/-!
# Limits of regular expressions

A text is refused when the tree it stands for is too deep, when the program of the
tree would be too large, or when nested repetitions ask for too many copies of
what they repeat.

The pieces of a tree are counted as they are made, and pieces that were given back
are taken again before new ones are made.  While the pieces, times the product of
all counts of repetitions, are few, the size of a program is not looked at.
-/

namespace Marginalia.Regex

set_option autoImplicit false

/-! ## Measures of a tree -/

mutual

/-- The greatest number of nested expressions. -/
def Node.height : Node → Nat
  | .cat parts => Node.heights parts + 1
  | .alt choices => Node.heights choices + 1
  | .capture _ body => body.height + 1
  | .star _ body => body.height + 1
  | .plus _ body => body.height + 1
  | .opt _ body => body.height + 1
  | .repeated _ _ _ body => body.height + 1
  | _ => 1

/-- The greatest of several heights. -/
def Node.heights : List Node → Nat
  | [] => 0
  | n :: ns => max n.height (Node.heights ns)

end

mutual

/-- The size of the program of an expression, as far as limits are concerned. -/
def Node.size : Node → Nat
  | .literal _ chars => max 1 chars.length
  | .capture _ body => 2 + body.size
  | .star _ body => 2 + body.size
  | .plus _ body => 1 + body.size
  | .opt _ body => 1 + body.size
  | .cat parts => max 1 (Node.sizes parts)
  | .alt choices => max 1 (Node.sizes choices + (choices.length - 1))
  | .repeated 0 none _ body => 2 + body.size
  | .repeated least none _ body => 1 + least * body.size
  | .repeated least (some most) _ body => max 1 (most * body.size + (most - least))
  | _ => 1

/-- The sum of several sizes. -/
def Node.sizes : List Node → Nat
  | [] => 0
  | n :: ns => n.size + Node.sizes ns

end

mutual

/-- Do nested repetitions ask for at most `copies` copies of what they repeat? -/
def Node.repeatsWithin (copies : Nat) : Node → Bool
  | .cat parts => Node.allRepeatWithin copies parts
  | .alt choices => Node.allRepeatWithin copies choices
  | .capture _ body => body.repeatsWithin copies
  | .star _ body => body.repeatsWithin copies
  | .plus _ body => body.repeatsWithin copies
  | .opt _ body => body.repeatsWithin copies
  | .repeated least most _ body =>
    let count := most.getD least
    if most = some 0 then true
    else if copies < count then false
    else body.repeatsWithin (if count = 0 then copies else copies / count)
  | _ => true

/-- Does that hold for each of several expressions? -/
def Node.allRepeatWithin (copies : Nat) : List Node → Bool
  | [] => true
  | n :: ns => n.repeatsWithin copies && Node.allRepeatWithin copies ns

end

/-! ## Counting pieces -/

def maxRepeat : Nat := 1000
def maxHeight : Nat := 1000
def maxSize : Nat := 3355443
def maxBounds : Nat := 33554432

/-- What was used up so far. -/
structure Budget where
  /-- pieces that were made -/
  made : Nat := 0
  /-- pieces that were given back -/
  spare : Nat := 0
  /-- characters of literals and bounds of classes that were read -/
  bounds : Nat := 0
  /-- the product of the counts of repetitions -/
  copies : Nat := 1
  /-- are sizes looked at? -/
  sizing : Bool := false
  deriving Repr, Inhabited

/-- A step of making a tree, which a limit may end. -/
abbrev Build := StateT Budget (Except Cause)

namespace Build

/-- A piece is needed. -/
def take : Build Unit := modify fun b =>
  if 0 < b.spare then { b with spare := b.spare - 1 } else { b with made := b.made + 1 }

/-- A piece is no longer needed. -/
def giveBack : Build Unit := modify fun b => { b with spare := b.spare + 1 }

/-- The number of copies that an expression itself asks for. -/
def copiesOf : Node → Nat
  | .repeated least most _ _ => max 1 (most.getD least)
  | _ => 1

/-- Are the pieces, times the copies, so many that sizes are to be looked at? -/
def startSizing (b : Budget) (n : Node) : Budget :=
  -- The product stops at the limit, so that it cannot grow without bound.
  let copies := if maxSize / b.copies < copiesOf n then maxSize else b.copies * copiesOf n
  { b with copies, sizing := maxSize / copies ≤ b.made }

/-- Refuses an expression beyond the limits. -/
def check (n : Node) : Build Unit := do
  if maxBounds < (← get).bounds then throw .large
  if !(← get).sizing then modify fun b => startSizing b n
  if (← get).sizing && maxSize < n.size then throw .large
  -- a tree of fewer pieces cannot be deeper than that
  if maxHeight ≤ (← get).made && maxHeight < n.height then throw .nesting

end Build

end Marginalia.Regex
