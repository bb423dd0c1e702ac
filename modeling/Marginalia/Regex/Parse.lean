import Marginalia.Regex.Escape
import Marginalia.Regex.Join

/-!
# Reading regular expressions

An expression is read from left to right, one item after the other: a character,
a class, an anchor, a repetition of the item before it, an alternative, or the
beginning or the end of a group.  Groups that are open are kept in a list of
frames.  The first mistake met on the way is the one reported; that a group is
not closed can only be said at the end.

Characters that follow each other become one text, but only where the last of them
is not repeated on its own.
-/

namespace Marginalia.Regex

set_option autoImplicit false

/-- The modes that an expression can switch. -/
structure Flags where
  /-- case does not matter -/
  fold : Bool := false
  /-- `^` and `$` also match at line ends -/
  multiline : Bool := false
  /-- `.` also matches a newline -/
  dotNewline : Bool := false
  /-- repetitions prefer few iterations -/
  lazy : Bool := false
  deriving DecidableEq, Repr, Inhabited

/-- A group that is open: its finished alternatives and the items of the current one, last first,
its number if it captures, and the flags that hold again after it. -/
structure Frame where
  alternatives : List Node := []
  items : List Node := []
  group : Option Nat := none
  flags : Flags
  deriving Inhabited

/-- What has been read so far. -/
structure State where
  frame : Frame
  outer : List Frame := []
  flags : Flags := {}
  groups : Nat := 0
  /-- the text from the repetition read just before, if the last thing read was one -/
  lastRepeat : Option Bytes := none
  /-- what was used up of the limits -/
  budget : Budget := {}
  deriving Inhabited

/-- Does a step of making a tree; a limit is reported with the whole text. -/
def State.building {α : Type} (whole : Bytes) (st : State) (step : Build α) :
    Except Error (α × State) :=
  match step.run st.budget with
  | .error cause => .error ⟨cause, whole⟩
  | .ok (a, budget) => .ok (a, { st with budget })

/-! ## Items -/

/-- Do the last two of the items, which are given last first, make one text? -/
def endInText : List Node → Bool
  | .literal fold _ :: .literal fold' _ :: _ => fold = fold'
  | _ => false

/-- The last two items become one piece if they make one text. -/
def joinLast (items : List Node) : Build Unit := if endInText items then Build.giveBack else pure ()

/-- Items, given last first, in their order, where neighbours that make one text are one. -/
def inOrder (items : List Node) : List Node :=
  let add : List Node → Node → List Node
    | .literal fold' chars' :: after, .literal fold chars =>
      if fold = fold' then .literal fold (chars ++ chars') :: after
      else .literal fold chars :: .literal fold' chars' :: after
    | after, n => n :: after
  items.foldl add []

/-- How many characters or bounds an expression itself has. -/
def Node.bounds : Node → Nat
  | .literal _ chars => chars.length
  | .set c => 2 * c.ranges.size
  | _ => 0

/-- The form in which an expression is added after items, which are given last first. -/
def admitted (items : List Node) (item : Node) : Build Node := do
  modify fun b => { b with bounds := b.bounds + item.bounds }
  let short :=
    match item with
    | .set c => Node.ofClass c
    | item => item
  -- The piece that two joined texts leave carries the character of a class at once, so that nothing
  -- is given back and nothing new has to be checked.
  match item, short with
  | .set _, .literal _ _ => if !endInText items then Build.check short
  | _, _ => do
    joinLast items
    Build.check short
  pure short

/-- The items of a finished alternative as one. -/
def Frame.alternative (f : Frame) : Build Node := do
  joinLast f.items
  if f.items.isEmpty then do
    Build.take
    admitted [] .empty
  else do
    let n ← sequence (inOrder f.items)
    admitted [] n

/-- Adds a finished alternative to those before it, which are given last first; two that read one
character each become one. -/
def withAlternative (before : List Node) (n : Node) : Build (List Node) :=
  match before with
  | [] => pure [n]
  | last :: more =>
    if last.class?.isSome && n.class?.isSome then do
      Build.giveBack
      pure (last.merge n :: more)
    else pure (n :: last.clean :: more)

/-- The open group as one item. -/
def Frame.item (f : Frame) : Build Node := do
  let n ← f.alternative
  let choices ← withAlternative f.alternatives n
  let choices :=
    match choices with
    | last :: more => last.clean :: more
    | [] => []
  let n ← joinChoices choices.reverse
  admitted [] n

/-- Adds an item that was just read to the open group. -/
def State.push (whole : Bytes) (st : State) (item : Node) : Except Error State := do
  let (item, st) ← st.building whole (do
    Build.take
    admitted st.frame.items item)
  return { st with
    frame := { st.frame with items := item :: st.frame.items }, lastRepeat := none }

/-! ## Repetitions -/

/-- The greatest number that a count is read as; a count with more digits is too big anyway. -/
def countCap : Nat := 1000000000

/-- A number without leading zeros at the beginning of `s`. -/
def parseCount (s : Bytes) : Option (Nat × Bytes) :=
  match s with
  | 48 :: b :: _ => if Bytes.isDigit b then none else some (0, s.drop 1)
  | _ =>
    let digits := s.takeWhile Bytes.isDigit
    if digits.isEmpty then none
    else
      some (digits.foldl (fun n b => min countCap (n * 10 + (b.toNat - 48))) 0,
        s.drop digits.length)

/-- The counts of a repetition such as `{2,5}` at the beginning of `s`, with what follows. -/
def parseCounts (s : Bytes) : Option (Nat × Option Nat × Bytes) := do
  let (least, t) ← parseCount (s.drop 1)
  -- The forms are {n}, {n,} and {n,m}.
  match t with
  | 125 :: rest => return (least, some least, rest)
  | 44 :: 125 :: rest => return (least, none, rest)
  | 44 :: t => do
    let (most, t) ← parseCount t
    match t with
    | 125 :: rest => return (least, some most, rest)
    | _ => none
  | _ => none

/-- How an item is repeated. -/
inductive Repetition where
  | star
  | plus
  | opt
  | counted (least : Nat) (most : Option Nat)

def Node.repeat (n : Node) (greedy : Bool) : Repetition → Node
  | .star => .star greedy n
  | .plus => .plus greedy n
  | .opt => .opt greedy n
  | .counted least most => .repeated least most greedy n

/-- Repeats the last item.  `s` is the text from the repetition on, `after` what follows it. -/
def repeatLast (whole : Bytes) (st : State) (how : Repetition) (s after : Bytes) :
    Except Error (State × Bytes) := do
  let (lazy, after) :=
    match after with
    | 63 :: after => (!st.flags.lazy, after)
    | _ => (st.flags.lazy, after)
  -- Of two repetitions in a row both are reported.
  if let some last := st.lastRepeat then
    throw ⟨.repeatOperator, consumed last after⟩
  match st.frame.items with
  | [] => throw ⟨.repeatArgument, consumed s after⟩
  | item :: items =>
    let repeated := item.repeat (!lazy) how
    let (_, st) ← st.building whole (do
      Build.take
      Build.check repeated)
    -- Counts below two do not add to what nested repetitions ask for.
    if let .counted least most := how then
      if (2 ≤ least || 2 ≤ most.getD 0) && !repeated.repeatsWithin maxRepeat then
        throw ⟨.repeatCount, consumed s after⟩
    return ({ st with
      frame := { st.frame with items := repeated :: items }, lastRepeat := some s }, after)

/-! ## Groups -/

/-- Opens a group. -/
def State.open (whole : Bytes) (st : State) (group : Option Nat) (inner : Flags) :
    Except Error State := do
  let (_, st) ← st.building whole (do
    Build.take
    joinLast st.frame.items
    Build.check .empty)
  return { st with
    frame := { group := group, flags := st.flags }
    outer := st.frame :: st.outer
    flags := inner
    groups := st.groups + (if group.isSome then 1 else 0)
    lastRepeat := none }

/-- Starts the next alternative of the open group. -/
def State.nextAlternative (whole : Bytes) (st : State) : Except Error State := do
  let (alternatives, st) ← st.building whole (do
    let n ← st.frame.alternative
    -- Only the first bar of a group leaves a mark, which is a piece of its own.
    if st.frame.alternatives.isEmpty then do
      Build.take
      Build.check .empty
    withAlternative st.frame.alternatives n)
  return { st with frame := { st.frame with alternatives, items := [] }, lastRepeat := none }

/-- Closes the open group. -/
def State.close (whole : Bytes) (st : State) : Except Error State := do
  let (item, st) ← st.building whole st.frame.item
  match st.outer with
  | [] => throw ⟨.unexpectedParen, whole⟩
  | frame :: outer =>
    let item :=
      match st.frame.group with
      | none => item
      | some n => .capture n item
    let (item, st) ← st.building whole (admitted frame.items item)
    return { st with
      frame := { frame with items := item :: frame.items }
      outer := outer
      flags := st.frame.flags
      lastRepeat := none }

/-- Is it a name that a group can have? -/
def validName (name : Bytes) : Bool :=
  !name.isEmpty && name.all fun b => b == 95 || Bytes.isLetter b || Bytes.isDigit b

/-- The flags of a group that starts with a question mark: those read so far, whether they are
being switched off, and whether there was one since.  Gives the flags, whether a group is opened,
and what follows; `none` with what follows if the text is not of this form. -/
def parseFlags : (fuel : Nat) → (flags : Flags) → (off saw : Bool) → Bytes →
    Except Error (Option (Flags × Bool) × Bytes)
  | 0, _, _, _, t => .ok (none, t)
  | fuel + 1, flags, off, saw, t =>
    if t.isEmpty then .ok (none, t)
    else
      match nextChar t with
      | .error e => .error e
      | .ok (c, t) =>
        -- The letters are i, m, s and U; a minus sign, a colon and a parenthesis follow.
        if c == 105 then parseFlags fuel { flags with fold := !off } off true t
        else if c == 109 then parseFlags fuel { flags with multiline := !off } off true t
        else if c == 115 then parseFlags fuel { flags with dotNewline := !off } off true t
        else if c == 85 then parseFlags fuel { flags with lazy := !off } off true t
        else if c == 45 then
          if off then .ok (none, t) else parseFlags fuel flags true false t
        else if c == 58 || c == 41 then
          -- A minus sign with no flag after it is a mistake.
          if off && !saw then .ok (none, t) else .ok (some (flags, c == 58), t)
        else .ok (none, t)

/-- A group that starts with a question mark, at the beginning of `s`. -/
def parseGroup (whole : Bytes) (st : State) (s : Bytes) : Except Error (State × Bytes) := do
  -- A name follows the four bytes (?P< or the three bytes (?<.
  let nameAt : Option Nat :=
    match s with
    | 40 :: 63 :: 80 :: 60 :: _ :: _ => some 4
    | 40 :: 63 :: 60 :: _ :: _ => some 3
    | _ => none
  match nameAt with
  | some k =>
    match Bytes.cut [62] s with
    | none => do
      checkEncoding s
      throw ⟨.namedCapture, s⟩
    | some (before, rest) => do
      let name := before.drop k
      checkEncoding name
      if !validName name then throw ⟨.namedCapture, before ++ [62]⟩
      return (← st.open whole (some (st.groups + 1)) st.flags, rest)
  | none =>
    let t := s.drop 2
    match ← parseFlags (t.length + 1) st.flags false false t with
    | (some (flags, true), rest) => return (← st.open whole none flags, rest)
    | (some (flags, false), rest) => return ({ st with flags := flags, lastRepeat := none }, rest)
    | (none, rest) => throw ⟨.perlSyntax, consumed s rest⟩

/-! ## Whole expressions -/

/-- The expression for a single character. -/
def literal (fold : Bool) (c : Nat) : Node := .literal fold [if fold then Unicode.foldKey c else c]

/-- Pushes every character of a quoted text. -/
def pushAll (whole : Bytes) : (fuel : Nat) → State → Bytes → Except Error State
  | 0, st, _ => .ok st
  | fuel + 1, st, t =>
    if t.isEmpty then .ok st
    else
      match nextChar t with
      | .error e => .error e
      | .ok (c, rest) =>
        match st.push whole (literal st.flags.fold c) with
        | .error e => .error e
        | .ok st => pushAll whole fuel st rest

/-- Reads what a backslash at the beginning of `s` introduces. -/
def parseBackslash (whole : Bytes) (st : State) (s : Bytes) : Except Error (State × Bytes) := do
  -- The letters are A, b, B, z, the forbidden C, and Q, which quotes up to a
  -- backslash with an E.
  match s.drop 1 with
  | 65 :: rest => return (← st.push whole (.anchor .beginText), rest)
  | 98 :: rest => return (← st.push whole (.anchor .wordBoundary), rest)
  | 66 :: rest => return (← st.push whole (.anchor .noWordBoundary), rest)
  | 122 :: rest => return (← st.push whole (.anchor .endText), rest)
  | 67 :: _ => throw ⟨.escape, s.take 2⟩
  | 81 :: rest => do
    let (text, rest) := (Bytes.cut (utf8 "\\E") rest).getD (rest, [])
    let st ← pushAll whole (text.length + 1) { st with lastRepeat := none } text
    return (st, rest)
  | _ => do
    match ← parseProperty st.flags.fold s with
    | some (c, rest) => return (← st.push whole (.set c), rest)
    | none =>
      match parseClassEscape st.flags.fold s with
      | some (c, rest) => return (← st.push whole (.set c), rest)
      | none => do
        let (c, rest) ← parseEscape s
        return (← st.push whole (literal st.flags.fold c), rest)

/-- Reads one thing at the beginning of `s`. -/
def parseOne (whole : Bytes) (st : State) (s : Bytes) : Except Error (State × Bytes) := do
  -- In this order: (? ( | ) ^ $ . [ * + ? { and a backslash.
  match s with
  | 40 :: 63 :: _ => parseGroup whole st s
  | 40 :: rest => return (← st.open whole (some (st.groups + 1)) st.flags, rest)
  | 124 :: rest => return (← st.nextAlternative whole, rest)
  | 41 :: rest => return (← st.close whole, rest)
  | 94 :: rest =>
    return (← st.push whole (.anchor (if st.flags.multiline then .beginLine else .beginText)), rest)
  | 36 :: rest =>
    return (← st.push whole (.anchor (if st.flags.multiline then .endLine else .endText)), rest)
  | 46 :: rest => return (← st.push whole (.any st.flags.dotNewline), rest)
  | 91 :: _ => do
    let (c, rest) ← parseClass st.flags.fold s
    return (← st.push whole (.set c), rest)
  | 42 :: rest => repeatLast whole st .star s rest
  | 43 :: rest => repeatLast whole st .plus s rest
  | 63 :: rest => repeatLast whole st .opt s rest
  | 123 :: rest =>
    match parseCounts s with
    -- A brace that no counts follow stands for itself.
    | none => return (← st.push whole (literal st.flags.fold 123), rest)
    | some (least, most, after) =>
      if maxRepeat < least || maxRepeat < most.getD 0 || (most.elim false fun m => m < least) then
        throw ⟨.repeatCount, consumed s after⟩
      else repeatLast whole st (.counted least most) s after
  | 92 :: _ => parseBackslash whole st s
  | _ => do
    let (c, rest) ← nextChar s
    return (← st.push whole (literal st.flags.fold c), rest)

def parseAll (whole : Bytes) : (fuel : Nat) → State → Bytes → Except Error State
  | 0, st, _ => .ok st
  | fuel + 1, st, s =>
    if s.isEmpty then .ok st
    else
      match parseOne whole st s with
      | .error e => .error e
      | .ok (st, rest) => parseAll whole fuel st rest

/-- Reads an expression: the tree and the number of capturing groups. -/
def parse (source : Bytes) : Except Error (Node × Nat) := do
  let st ← parseAll source (source.length + 1) { frame := { flags := {} } } source
  let (item, st) ← st.building source st.frame.item
  if st.outer.isEmpty then return (item, st.groups) else throw ⟨.paren, source⟩

end Marginalia.Regex
