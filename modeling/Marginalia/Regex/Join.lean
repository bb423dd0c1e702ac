import Marginalia.Regex.Budget

/-!
# Sequences and alternatives

How expressions are joined.  A sequence inside a sequence, or alternatives inside
alternatives, add no level to the tree.  Alternatives are then made smaller without
changing what they match: what neighbours have in common at their beginning is
written once, neighbours that read one character each become a class, and of
several empty ones in a row one is left.

For example, `abc|abd|aef|bcx|bcy` becomes `a(?:b[cd]|ef)|bc[xy]`.
-/

namespace Marginalia.Regex

set_option autoImplicit false

/-! ## Expressions that read one character -/

/-- The class of an expression that always reads exactly one character, as far as that can be seen at
once. -/
def Node.class? : Node → Option CharClass
  | .literal fold [c] => some (CharClass.single fold c)
  | .set c => some c
  | .any true => some CharClass.everything
  | .any false => some CharClass.noNewline
  | _ => none

/-- A class that holds all characters, or all but the newline, in its short form. -/
def Node.clean : Node → Node
  | .set c =>
    if c = CharClass.everything then .any true
    else if c = CharClass.noNewline then .any false
    else .set c
  | n => n

/-- One expression for two that read one character each. -/
def Node.merge (a b : Node) : Node :=
  match a, b with
  | .literal fold [c], .literal fold' [c'] =>
    if fold = fold' && c = c' then a
    else (Node.set ((CharClass.single fold c).union (CharClass.single fold' c'))).clean
  | _, _ =>
    match a.class?, b.class? with
    | some c, some d => (Node.set (c.union d)).clean
    | _, _ => a

/-- A class of one character, or of two that differ by case only, as that character. -/
def Node.ofClass (c : CharClass) : Node :=
  let pair (lo hi : Nat) : Bool := Unicode.foldClass lo = [lo, hi]
  match c.ranges.toList with
  | [(lo, hi)] =>
    if lo = hi then .literal false [lo]
    else if lo + 1 = hi && pair lo hi then .literal true [lo]
    else .set c
  | [(lo, lo'), (hi, hi')] =>
    if lo = lo' && hi = hi' && pair lo hi then .literal true [lo] else .set c
  | _ => .set c

/-! ## Runs -/

/-- Splits a list into runs: an element joins the run before it or starts a new one.  A run comes with
what `start` and `join` say about it. -/
def runs {α β : Type} (start : α → β) (join : β → α → Option β) (xs : List α) : List (β × List α) :=
  let step : List (β × List α) → α → List (β × List α)
    | (b, run) :: done, x =>
      match join b x with
      | some b => (b, x :: run) :: done
      | none => (start x, [x]) :: (b, run) :: done
    | [], x => [(start x, [x])]
  (xs.foldl step []).reverse.map fun (b, run) => (b, run.reverse)

/-! ## Beginnings -/

/-- The text that an expression begins with, and whether its case does not matter. -/
def Node.leadingText : Node → Bool × List Nat
  | .literal fold chars => (fold, chars)
  | .cat (.literal fold chars :: _) => (fold, chars)
  | _ => (false, [])

/-- The longest common beginning of two lists. -/
def commonStart : List Nat → List Nat → List Nat
  | a :: as, b :: bs => if a = b then a :: commonStart as bs else []
  | _, _ => []

/-- A sequence without its first part. -/
def withoutFirst : List Node → Build Node
  | [] => pure .empty
  | [n] => do
    Build.giveBack
    pure n
  | ns => pure (.cat ns)

/-- An expression without the first `k` characters of the text it begins with. -/
def Node.dropText (k : Nat) : Node → Build Node
  | .literal fold chars => pure (if (chars.drop k).isEmpty then .empty else .literal fold (chars.drop k))
  | .cat (.literal fold chars :: rest) =>
    if (chars.drop k).isEmpty then do
      Build.giveBack
      withoutFirst rest
    else pure (.cat (.literal fold (chars.drop k) :: rest))
  | n => pure n

/-- The first part of an expression; a sequence that begins with nothing has none. -/
def Node.leading? : Node → Option Node
  | .empty => none
  | .cat (.empty :: _) => none
  | .cat (n :: _) => some n
  | n => some n

/-- An expression without its first part; the part is given back unless it is still `needed`. -/
def Node.dropLeading (needed : Bool) : Node → Build Node
  | .cat (_ :: rest) => do
    if !needed then Build.giveBack
    withoutFirst rest
  | _ => do
    if !needed then Build.giveBack
    Build.take
    pure .empty

/-- Do two expressions read the same one character, in the same form? -/
def Node.sameChar : Node → Node → Bool
  | .literal fold [c], .literal fold' [c'] => fold = fold' && c = c'
  | .set c, .set c' => c = c'
  | .any b, .any b' => b = b'
  | _, _ => false

/-- Do two expressions have the same beginning, one that is simple enough to be shared: a character,
or a fixed number of them? -/
def Node.sharesStart : Node → Node → Bool
  | .repeated least (some most) greedy body, .repeated least' most' greedy' body' =>
    least = most && least = least' && most' = some most && greedy = greedy' && body.sameChar body'
  | a, b => a.sameChar b

/-! ## Alternatives -/

/-- Writes a common text at the beginning of neighbours once. -/
def factorTexts (join : List Node → Build Node) (ns : List Node) : Build (List Node) :=
  let extend (text : Bool × List Nat) (n : Node) : Option (Bool × List Nat) :=
    let next := n.leadingText
    let common := commonStart text.2 next.2
    if text.1 = next.1 && !common.isEmpty then some (text.1, common) else none
  (runs Node.leadingText extend ns).mapM fun (text, run) =>
    match run with
    | [n] => pure n
    | _ => do
      Build.take
      -- The piece just taken is that of the text; the sequence takes another.
      let rest ← run.mapM fun n => do
        let n ← n.dropText text.2.length
        Build.check n
        pure n
      let rest ← join rest
      Build.take
      pure (.cat [.literal text.1 text.2, rest])

/-- Writes a common first part of neighbours once. -/
def factorParts (join : List Node → Build Node) (ns : List Node) : Build (List Node) :=
  let extend (first : Option Node) (n : Node) : Option (Option Node) :=
    match first, n.leading? with
    | some a, some b => if a.sharesStart b then some first else none
    | _, _ => none
  (runs Node.leading? extend ns).mapM fun (first, run) =>
    match first, run with
    | some first, n :: more@(_ :: _) => do
      -- The first of the run lends its part to all of them, and the others give theirs back.
      let n ← n.dropLeading true
      Build.check n
      let more ← more.mapM fun n => do
        let n ← n.dropLeading false
        Build.check n
        pure n
      let rest ← join (n :: more)
      Build.take
      pure (.cat [first, rest])
    | _, _ => pure (run.headD .empty)

/-- Makes one class of neighbours that read one character each. -/
def mergeClasses (ns : List Node) : Build (List Node) :=
  let reads (n : Node) : Bool := n.class?.isSome
  (runs reads (fun before n => if before && reads n then some true else none) ns).mapM fun (_, run) =>
    match run with
    | [] => pure .empty
    | n :: more => do
      more.forM fun _ => Build.giveBack
      pure (more.foldl Node.merge n)

/-- Of several empty expressions in a row one is left. -/
def dropEmpties : List Node → List Node
  | .empty :: .empty :: ns => dropEmpties (.empty :: ns)
  | n :: ns => n :: dropEmpties ns
  | [] => []

/-- Alternatives as one expression.  `fuel` bounds how often beginnings are taken off. -/
def choice : (fuel : Nat) → List Node → Build Node
  | _, [n] => pure n
  | 0, ns => pure (.alt ns)
  | fuel + 1, ns => do
    Build.take
    let flat ← ns.mapM fun n =>
      match n with
      | .alt choices => do
        Build.giveBack
        pure choices
      | n => pure [n]
    -- Texts come first: what they leave may share other parts, and what those leave is merged.
    let texts ← factorTexts (choice fuel) flat.flatten
    let parts ← factorParts (choice fuel) texts
    match dropEmpties (← mergeClasses parts) with
    | [n] => do
      Build.giveBack
      pure n
    | ns => pure (.alt ns)

/-- Alternatives as one expression.  Each time beginnings are taken off, what is left is smaller. -/
def joinChoices (ns : List Node) : Build Node := choice (Node.sizes ns + 1) ns

/-! ## Sequences -/

/-- Expressions one after the other as one. -/
def sequence : List Node → Build Node
  | [n] => pure n
  | ns => do
    Build.take
    let flat ← ns.mapM fun n =>
      match n with
      | .cat parts => do
        Build.giveBack
        pure parts
      | n => pure [n]
    pure (.cat flat.flatten)

end Marginalia.Regex
