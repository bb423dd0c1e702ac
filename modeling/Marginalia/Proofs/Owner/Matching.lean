import Marginalia.Proofs.Owner.Braces

/-!
# Blocks and the braces that close them

Nested braces are a sequence of blocks, each of which is an opening brace, nested braces
and a closing brace (`Brace.Nested`).  Nothing is counted here, but the runs of braces
that are described in this way are the ones that lead back to where they start and never
above it (`Brace.balanced_iff_nested`).

So the search for the end of a body, which counts in a single pass, finds the closing
brace of the first block that opens in its window, and fails if no block opens there or if
the first one is not closed (`Decl.bodyEnd_matches`).  It does not matter what stands
before this block or after it.
-/

namespace Marginalia

set_option autoImplicit false

namespace Brace

/-! ## Nested braces -/

/-- A sequence of blocks, each an opening brace, nested braces, and a closing brace. -/
inductive Nested : List Brace → Prop where
  | nil : Nested []
  | block {first last : Nat} {inner rest : List Brace} (within : Nested inner) (after : Nested rest) :
      Nested (⟨.opening, first⟩ :: (inner ++ ⟨.closing, last⟩ :: rest))

/-- One climb after the other is a climb by the levels of both. -/
theorem Climbs.append {levels more : Nat} {bs cs : List Brace} (first : Climbs levels bs)
    (second : Climbs more cs) : Climbs (levels + more) (bs ++ cs) := by
  induction bs generalizing levels with
  | nil =>
    obtain rfl := climbs_nil_iff.1 first
    rwa [Nat.zero_add, List.nil_append]
  | cons b bs ih =>
    obtain ⟨kind, offset⟩ := b
    rw [List.cons_append]
    cases kind with
    | opening =>
      rw [climbs_opening_iff, Nat.add_right_comm]
      exact ih (climbs_opening_iff.1 first)
    | closing =>
      obtain ⟨fewer, rfl, rest⟩ := climbs_closing_iff.1 first
      exact climbs_closing_iff.2 ⟨fewer + more, Nat.add_right_comm _ _ _, ih rest⟩

theorem Nested.balanced {bs : List Brace} (nested : Nested bs) : Balanced bs := by
  induction nested with
  | nil => exact climbs_nil_iff.2 rfl
  | @block first last inner rest _ _ within after =>
    have closed : Climbs 1 (⟨.closing, last⟩ :: rest) := climbs_closing_iff.2 ⟨0, rfl, after⟩
    have whole := within.append closed
    rw [Nat.zero_add] at whole
    exact climbs_opening_iff.2 whole

/-- Braces that climb are nested, as far as the brace with which they first come to a level above. -/
theorem Climbs.exists_nested {levels : Nat} {bs : List Brace} (climbs : Climbs levels bs) :
    (levels = 0 ∧ Nested bs) ∨
    ∃ fewer inner last after, levels = fewer + 1 ∧ bs = inner ++ ⟨.closing, last⟩ :: after ∧
      Nested inner ∧ Climbs fewer after := by
  -- after an opening brace there are two climbs to take apart, and the second is what the first leaves
  induction length : bs.length using Nat.strongRecOn generalizing bs levels with
  | _ n ih =>
    cases bs with
    | nil => exact .inl ⟨climbs_nil_iff.1 climbs, .nil⟩
    | cons b bs =>
      obtain ⟨kind, offset⟩ := b
      rw [List.length_cons] at length
      cases kind with
      | closing =>
        obtain ⟨fewer, same, rest⟩ := climbs_closing_iff.1 climbs
        exact .inr ⟨fewer, [], offset, bs, same, rfl, .nil, rest⟩
      | opening =>
        rcases ih bs.length (by omega) (climbs_opening_iff.1 climbs) rfl with
          ⟨impossible, -⟩ | ⟨fewer, inner, last, after, same, rfl, block, rest⟩
        · cases impossible
        · obtain rfl : levels = fewer := Nat.succ.inj same
          rw [List.length_append, List.length_cons] at length
          rcases ih after.length (by omega) rest rfl with
            ⟨level, nested⟩ | ⟨fewer, inner', last', after', same', rfl, block', rest'⟩
          · exact .inl ⟨level, .block block nested⟩
          · refine .inr ⟨fewer, ⟨.opening, offset⟩ :: (inner ++ ⟨.closing, last⟩ :: inner'), last', after',
              same', ?_, .block block block', rest'⟩
            simp only [List.cons_append, List.append_assoc]

/-- **Balanced braces are nested braces.** -/
theorem balanced_iff_nested (bs : List Brace) : Balanced bs ↔ Nested bs := by
  refine ⟨fun balanced => ?_, Nested.balanced⟩
  rcases balanced.exists_nested with ⟨-, nested⟩ | ⟨_, _, _, _, impossible, -⟩
  · exact nested
  · cases impossible

/-- The brace that opens at `first` and the later one that closes at `last` have nested braces between
them. -/
def Matches (braces : List Brace) (first last : Nat) : Prop :=
  ∃ before inner after, braces = before ++ ⟨.opening, first⟩ :: (inner ++ ⟨.closing, last⟩ :: after) ∧
    Nested inner

theorem closes_iff_matches {braces : List Brace} {first last : Nat} :
    Closes braces first last ↔ Matches braces first last := by
  simp only [Closes, Matches, balanced_iff_nested]

/-- The first brace that opens at an offset from `start` on and before `limit`. -/
structure OpensWithin (braces : List Brace) (start limit first : Nat) : Prop where
  member : ⟨.opening, first⟩ ∈ braces
  after : start ≤ first
  before : first < limit
  least : ∀ b ∈ braces, b.kind = .opening → start ≤ b.offset → b.offset < limit → first ≤ b.offset

theorem OpensWithin.opensFirst {braces : List Brace} {start limit first : Nat}
    (opens : OpensWithin braces start limit first) : OpensFirst braces start first where
  member := opens.member
  after := opens.after
  least offset member after := by
    rcases Nat.lt_or_ge offset limit with inside | beyond
    · exact opens.least _ member rfl after inside
    · exact Nat.le_trans (Nat.le_of_lt opens.before) beyond

end Brace

namespace Decl

open Brace

/-- Where a body ends, a block opens in the window. -/
theorem exists_opening_of_bodyEnd {braces : List Brace} {start limit stop : Nat}
    (found : bodyEnd braces start limit = some stop) :
    ∃ offset, ⟨.opening, offset⟩ ∈ braces ∧ start ≤ offset ∧ offset < limit := by
  rw [bodyEnd] at found
  split at found
  · rename_i offset rest opens
    split at found
    · rename_i inside
      have kept : ⟨.opening, offset⟩ ∈ (braces.filter fun b => start ≤ b.offset).dropWhile fun b =>
          b.kind == .closing && b.offset < limit := by
        rw [opens]
        exact List.mem_cons_self
      obtain ⟨member, after⟩ := List.mem_filter.1 ((List.dropWhile_sublist _).subset kept)
      exact ⟨offset, member, of_decide_eq_true after, inside⟩
    · cases found
  · cases found

/-- A body ends after the brace that matches the first one to open in the window. -/
theorem bodyEnd_eq_some_iff_matches {braces : List Brace} {start limit stop : Nat}
    (sorted : braces.Pairwise fun b c => b.offset < c.offset) :
    bodyEnd braces start limit = some stop ↔
      ∃ first last, OpensWithin braces start limit first ∧ Matches braces first last ∧
        stop = last + 1 := by
  constructor
  · intro found
    obtain ⟨offset, member, after, inside⟩ := exists_opening_of_bodyEnd found
    obtain ⟨first, last, opens, closes, rfl⟩ :=
      (bodyEnd_eq_some_iff sorted member after inside).1 found
    have before : first < limit := Nat.lt_of_le_of_lt (opens.least offset member after) inside
    refine ⟨first, last, ⟨opens.member, opens.after, before, ?_⟩, closes_iff_matches.1 closes, rfl⟩
    rintro ⟨kind, other⟩ member rfl after _
    exact opens.least other member after
  · rintro ⟨first, last, opens, closes, rfl⟩
    exact (bodyEnd_eq_some_iff sorted opens.member opens.after opens.before).2
      ⟨first, last, opens.opensFirst, closes_iff_matches.2 closes, rfl⟩

/-- **The end of a body is where the first block that opens in its window is closed.**  There is one
exactly if a block opens in the window and the first of these is closed.  A block is closed by one
brace only, and the body ends after it. -/
theorem bodyEnd_matches (braces : List Brace) (start limit : Nat)
    (sorted : braces.Pairwise fun b c => b.offset < c.offset) :
    ((bodyEnd braces start limit).isSome = true ↔
      ∃ first, OpensWithin braces start limit first ∧ ∃ last, Matches braces first last) ∧
    ∀ first last, OpensWithin braces start limit first → Matches braces first last →
      bodyEnd braces start limit = some (last + 1) ∧
      ∀ last', Matches braces first last' → last' = last := by
  constructor
  · rw [Option.isSome_iff_exists]
    constructor
    · rintro ⟨stop, found⟩
      obtain ⟨first, last, opens, closed, -⟩ := (bodyEnd_eq_some_iff_matches sorted).1 found
      exact ⟨first, opens, last, closed⟩
    · rintro ⟨first, opens, last, closed⟩
      exact ⟨last + 1, (bodyEnd_eq_some_iff_matches sorted).2 ⟨first, last, opens, closed, rfl⟩⟩
  · intro first last opens closed
    refine ⟨(bodyEnd_eq_some_iff_matches sorted).2 ⟨first, last, opens, closed, rfl⟩, ?_⟩
    intro last' closed'
    exact closes_unique sorted (closes_iff_matches.2 closed') (closes_iff_matches.2 closed)

/-- A brace that closes nothing, a block with a block in it, and a block that is not closed. -/
def strayBraces : List Brace :=
  [⟨.closing, 1⟩, ⟨.opening, 3⟩, ⟨.opening, 5⟩, ⟨.closing, 6⟩, ⟨.closing, 9⟩, ⟨.opening, 11⟩,
    ⟨.opening, 12⟩, ⟨.closing, 14⟩]

/-- The body that opens after the stray brace ends with its own closing brace.  The last block has no
end, although a block in it has. -/
theorem bodyEnd_matches_strayBraces :
    (strayBraces.Pairwise fun b c => b.offset < c.offset) ∧
    bodyEnd strayBraces 0 4 = some 10 ∧
    (∀ last, Matches strayBraces 3 last → last = 9) ∧
    ¬ ∃ last, Matches strayBraces 11 last := by
  have sorted : strayBraces.Pairwise fun b c => b.offset < c.offset := by decide
  have opens : OpensWithin strayBraces 0 4 3 :=
    ⟨by decide, by decide, by decide, by decide⟩
  have closed : Matches strayBraces 3 9 :=
    ⟨[⟨.closing, 1⟩], [⟨.opening, 5⟩, ⟨.closing, 6⟩],
      [⟨.opening, 11⟩, ⟨.opening, 12⟩, ⟨.closing, 14⟩], rfl, .block .nil .nil⟩
  have opensLast : OpensWithin strayBraces 10 12 11 :=
    ⟨by decide, by decide, by decide, by decide⟩
  obtain ⟨found, unique⟩ := (bodyEnd_matches strayBraces 0 4 sorted).2 3 9 opens closed
  refine ⟨sorted, found, unique, ?_⟩
  rintro ⟨last, closed'⟩
  have ends := (bodyEnd_matches strayBraces 10 12 sorted).1.2 ⟨11, opensLast, last, closed'⟩
  revert ends
  decide

end Decl

end Marginalia
