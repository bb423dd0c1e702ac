import Marginalia.Outline.Token

/-!
# Reading a list of tokens

A reader takes tokens from the front of a list and may fail.  It knows where the
last token that it took ends, and whether it stands in the header of a statement.
That it does nothing else to the list is part of what a reader is (`Parse.takes`), so
it holds of every rule of the grammar.

Loops are bounded by the number of tokens that are left, since each round takes at
least one.
-/

namespace Marginalia.Outline

set_option autoImplicit false

/-- What is left to read. -/
structure Input where
  tokens : List Token
  /-- the offset after the last token read -/
  stop : Nat := 0
  /-- in the header of a statement, where a brace after a name opens the body -/
  header : Bool := false
  deriving Repr, Inhabited

/-- The offset after the last of some tokens, which are read after `stop`. -/
def stopAfter (stop : Nat) (taken : List Token) : Nat := taken.foldl (fun _ t => t.stop) stop

/-- The second input is what is left of the first when tokens are taken from its front. -/
def Input.Leaves (s s' : Input) : Prop :=
  ∃ taken, s.tokens = taken ++ s'.tokens ∧ s'.stop = stopAfter s.stop taken

theorem Input.Leaves.refl (s : Input) : s.Leaves s := ⟨[], rfl, rfl⟩

theorem Input.Leaves.trans {s s' s'' : Input} (first : s.Leaves s') (second : s'.Leaves s'') :
    s.Leaves s'' := by
  obtain ⟨taken, tokens, stop⟩ := first
  obtain ⟨taken', tokens', stop'⟩ := second
  refine ⟨taken ++ taken', ?_, ?_⟩
  · rw [tokens, tokens', List.append_assoc]
  · rw [stop', stop, stopAfter, stopAfter, stopAfter, List.foldl_append]

/-- Reads something from the front of an input, or fails. -/
structure Parse (α : Type) where
  run : Input → Option (α × Input)
  /-- nothing happens to an input but that tokens are taken from its front -/
  takes : ∀ {s s' : Input} {a : α}, run s = some (a, s') → s.Leaves s'

namespace Parse

/-- Reads nothing. -/
@[inline]
protected def pure {α : Type} (a : α) : Parse α where
  run s := some (a, s)
  takes done := by
    cases done
    exact .refl _

/-- Reads one thing, then another. -/
@[inline]
protected def bind {α β : Type} (p : Parse α) (f : α → Parse β) : Parse β where
  run s := (p.run s).bind fun (a, s') => (f a).run s'
  takes done := by
    obtain ⟨⟨a, s'⟩, first, second⟩ := Option.bind_eq_some_iff.1 done
    exact (p.takes first).trans ((f a).takes second)

@[always_inline]
instance : Monad Parse where
  pure := Parse.pure
  bind := Parse.bind

def fail {α : Type} : Parse α where
  run _ := none
  takes done := nomatch done

/-- What is left, which stays. -/
def input : Parse Input where
  run s := some (s, s)
  takes done := by
    cases done
    exact .refl _

/-- The next token, which stays. -/
def here : Parse Token := do return (← input).tokens.headD ⟨.eof, 0, 0, none⟩

/-- What the next token is. -/
def peek : Parse Kind := do return (← here).kind

/-- Takes the next token. -/
def next : Parse Token where
  run s :=
    match s with
    | ⟨[], _, _⟩ => none
    | ⟨t :: rest, _, header⟩ => some (t, ⟨rest, t.stop, header⟩)
  takes {s _ _} done := by
    match s, done with
    | ⟨t :: _, _, _⟩, rfl => exact ⟨[t], rfl, rfl⟩

def atSign (s : String) : Parse Bool := do return (← peek) == .sign s

def atKeyword (k : String) : Parse Bool := do return (← peek) == .keyword k

/-- Takes the next token, which has to be the given sign. -/
def sign (s : String) : Parse Token := do if ← atSign s then next else fail

/-- Takes the next token, which has to be the given keyword. -/
def keyword (k : String) : Parse Token := do if ← atKeyword k then next else fail

/-- Takes the given sign if it is next. -/
def sign? (s : String) : Parse Bool := do
  if ← atSign s then
    let _ ← next
    return true
  else return false

/-- Takes a name. -/
def name : Parse Bytes := do
  match ← peek with
  | .name text =>
    let _ ← next
    return text
  | _ => fail

/-- Takes a semicolon, which may be left out before a closing parenthesis or brace. -/
def semicolon : Parse Unit := do
  match ← peek with
  | .semicolon =>
    let _ ← next
    return
  | .sign s => if s = ")" ∨ s = rbrace then return else fail
  | _ => fail

/-- Runs a parser as if outside the header of a statement, or inside it. -/
def within {α : Type} (header : Bool) (p : Parse α) : Parse α where
  run s := (p.run { s with header }).map fun (a, s') => (a, { s' with header := s.header })
  takes done := by
    obtain ⟨⟨a, s'⟩, ran, same⟩ := Option.map_eq_some_iff.1 done
    cases same
    -- Whether the input is in a header makes no difference.
    have left := p.takes ran
    exact left

/-- Inside brackets, where a brace after a name opens a literal again. -/
def nested {α : Type} (p : Parse α) : Parse α := within false p

/-- The items up to the closing sign, with a comma after each but perhaps the last; the second result
tells whether the last has one too. -/
def listFrom {α : Type} (closing : String) (item : Parse α) : Nat → Parse (List α × Bool)
  | 0 => fail
  | n + 1 => do
    let a ← item
    if ← sign? "," then
      let k ← peek
      if k == .sign closing || k == .eof then return ([a], true)
      let (more, comma) ← listFrom closing item n
      return (a :: more, comma)
    else if ← atSign closing then return ([a], false)
    else fail

/-- The items up to the closing sign, which stays, and whether a comma follows the last. -/
def listWithComma {α : Type} (closing : String) (item : Parse α) : Parse (List α × Bool) := do
  let k ← peek
  if k == .sign closing || k == .eof then return ([], false)
  else listFrom closing item ((← input).tokens.length + 1)

/-- The items up to the closing sign, which stays. -/
def list {α : Type} (closing : String) (item : Parse α) : Parse (List α) := do
  return (← listWithComma closing item).1

/-- One item or more, with commas between. -/
def commaFrom {α : Type} (item : Parse α) : Nat → Parse (List α)
  | 0 => fail
  | n + 1 => do
    let a ← item
    if ← sign? "," then return a :: (← commaFrom item n) else return [a]

def commas {α : Type} (item : Parse α) : Parse (List α) := do
  commaFrom item ((← input).tokens.length + 1)

/-- Repeats a parser as long as the next token is of a kind. -/
def whileFrom {α : Type} (more : Kind → Bool) (item : Parse α) : Nat → Parse (List α)
  | 0 => fail
  | n + 1 => do
    if more (← peek) then
      let a ← item
      return a :: (← whileFrom more item n)
    else return []

def many {α : Type} (more : Kind → Bool) (item : Parse α) : Parse (List α) := do
  whileFrom more item ((← input).tokens.length + 1)

end Parse

end Marginalia.Outline
