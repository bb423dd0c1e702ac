import Marginalia.Owner.Decl
import Mathlib.Data.List.Basic

/-!
# Braces that belong together

Braces lead down into blocks and up again.  A run of braces is balanced if it
leads back to where it started and never above that.  A closing brace belongs to
an opening one if the braces between them are balanced; this says what belongs
together without counting.

The end of a body is looked for by counting.  It is the brace that belongs to the
first opening one (`Decl.closes_iff`, `Decl.bodyEnd_eq_some_iff`).  Where blocks are
nested the outer one closes last (`Decl.closing_le`).
-/

namespace Marginalia

set_option autoImplicit false

namespace Brace

/-! ## Up and down -/

/-- How many levels a brace leads down. -/
def descent (b : Brace) : Int :=
  match b.kind with
  | .opening => 1
  | .closing => -1

/-- How many levels braces lead down, less those they lead up. -/
def depth : List Brace → Int
  | [] => 0
  | b :: bs => b.descent + depth bs

@[simp] theorem depth_nil : depth [] = 0 := rfl

@[simp] theorem depth_cons (b : Brace) (bs : List Brace) : depth (b :: bs) = b.descent + depth bs :=
  rfl

@[simp] theorem depth_append (bs cs : List Brace) : depth (bs ++ cs) = depth bs + depth cs := by
  induction bs with
  | nil => rw [List.nil_append, depth_nil, Int.zero_add]
  | cons b bs ih => rw [List.cons_append, depth_cons, depth_cons, ih, Int.add_assoc]

/-- Braces that lead up by a number of levels and never further. -/
structure Climbs (levels : Nat) (bs : List Brace) : Prop where
  ends : depth bs = -levels
  within : ∀ part, part <+: bs → -(levels : Int) ≤ depth part

/-- Braces that lead back to where they start and never above it. -/
abbrev Balanced (bs : List Brace) : Prop := Climbs 0 bs

/-- The brace that opens at `first` is closed at `last`. -/
def Closes (braces : List Brace) (first last : Nat) : Prop :=
  ∃ before inner after, braces = before ++ ⟨.opening, first⟩ :: (inner ++ ⟨.closing, last⟩ :: after) ∧
    Balanced inner

/-- The first brace that opens from an offset on. -/
structure OpensFirst (braces : List Brace) (start first : Nat) : Prop where
  member : ⟨.opening, first⟩ ∈ braces
  after : start ≤ first
  least : ∀ offset, ⟨.opening, offset⟩ ∈ braces → start ≤ offset → first ≤ offset

theorem OpensFirst.eq {braces : List Brace} {start first first' : Nat}
    (opens : OpensFirst braces start first) (opens' : OpensFirst braces start first') :
    first = first' :=
  Nat.le_antisymm (opens.least _ opens'.member opens'.after) (opens'.least _ opens.member opens.after)

theorem Closes.opening_mem {braces : List Brace} {first last : Nat}
    (closes : Closes braces first last) : ⟨.opening, first⟩ ∈ braces := by
  obtain ⟨before, inner, after, rfl, -⟩ := closes
  exact List.mem_append_right _ List.mem_cons_self

theorem climbs_nil_iff {levels : Nat} : Climbs levels [] ↔ levels = 0 := by
  constructor
  · intro climbs
    have := climbs.ends
    rw [depth_nil] at this
    omega
  · rintro rfl
    refine ⟨rfl, fun part prefixed => ?_⟩
    rw [List.prefix_nil.1 prefixed]
    exact Int.le_refl 0

/-- A brace before a run changes by its descent how far the run climbs. -/
theorem Climbs.cons {levels levels' : Nat} {b : Brace} {bs : List Brace}
    (shift : (levels' : Int) = levels + b.descent) (climbs : Climbs levels' bs) :
    Climbs levels (b :: bs) := by
  constructor
  · have := climbs.ends
    rw [depth_cons]
    omega
  · intro part prefixed
    rcases List.prefix_cons_iff.1 prefixed with rfl | ⟨rest, rfl, shorter⟩
    · rw [depth_nil]
      omega
    · have := climbs.within rest shorter
      rw [depth_cons]
      omega

theorem Climbs.of_cons {levels levels' : Nat} {b : Brace} {bs : List Brace}
    (shift : (levels' : Int) = levels + b.descent) (climbs : Climbs levels (b :: bs)) :
    Climbs levels' bs := by
  constructor
  · have := climbs.ends
    rw [depth_cons] at this
    omega
  · intro part prefixed
    have := climbs.within (b :: part) (List.cons_prefix_cons.2 ⟨rfl, prefixed⟩)
    rw [depth_cons] at this
    omega

theorem climbs_opening_iff {levels offset : Nat} {bs : List Brace} :
    Climbs levels (⟨.opening, offset⟩ :: bs) ↔ Climbs (levels + 1) bs := by
  have shift : ((levels + 1 : Nat) : Int) = levels + descent ⟨.opening, offset⟩ := rfl
  exact ⟨.of_cons shift, .cons shift⟩

theorem climbs_closing_iff {levels offset : Nat} {bs : List Brace} :
    Climbs levels (⟨.closing, offset⟩ :: bs) ↔ ∃ fewer, levels = fewer + 1 ∧ Climbs fewer bs := by
  have up : descent ⟨.closing, offset⟩ = -1 := rfl
  constructor
  · intro climbs
    have first := climbs.within [⟨.closing, offset⟩] (List.cons_prefix_cons.2 ⟨rfl, List.nil_prefix⟩)
    rw [depth_cons, depth_nil, up] at first
    obtain ⟨fewer, rfl⟩ : ∃ fewer, levels = fewer + 1 := ⟨levels - 1, by omega⟩
    exact ⟨fewer, rfl, climbs.of_cons (by rw [up]; omega)⟩
  · rintro ⟨fewer, rfl, climbs⟩
    exact climbs.cons (by rw [up]; omega)

/-- **Where blocks are nested the outer one closes last.**  A brace that opens in a balanced run is
closed in it: until then the braces after it would lead above it. -/
theorem Balanced.closing_mem {before after inner rest rest' : List Brace} {first last : Nat}
    (outer : Balanced (before ++ ⟨.opening, first⟩ :: after)) (block : Balanced inner)
    (same : after ++ rest = inner ++ ⟨.closing, last⟩ :: rest') : ⟨.closing, last⟩ ∈ after := by
  have above := outer.within before (List.prefix_append _ _)
  have ends := outer.ends
  have step : depth (⟨.opening, first⟩ :: after) = 1 + depth after := depth_cons _ _
  rw [depth_append, step] at ends
  rcases List.append_eq_append_iff.1 same with ⟨more, split, -⟩ | ⟨more, split, tail⟩
  · have := block.within after ⟨more, split.symm⟩
    omega
  · cases more with
    | nil =>
      have := block.ends
      rw [split, List.append_nil] at ends
      omega
    | cons b more =>
      obtain ⟨rfl, -⟩ := List.cons.inj tail
      rw [split]
      exact List.mem_append_right _ List.mem_cons_self

/-- In order, a brace stands at one place only. -/
theorem split_unique {before after before' after' : List Brace} {b : Brace}
    (sorted : (before ++ b :: after).Pairwise fun b c => b.offset < c.offset)
    (same : before ++ b :: after = before' ++ b :: after') : before = before' ∧ after = after' := by
  obtain ⟨-, rest, follow⟩ := List.pairwise_append.1 sorted
  have notBefore : b ∉ before := fun member =>
    Nat.lt_irrefl _ (follow b member b List.mem_cons_self)
  have notAfter : b ∉ after := fun member =>
    Nat.lt_irrefl _ ((List.pairwise_cons.1 rest).1 b member)
  obtain ⟨first, -, second⟩ := (List.append_cons_inj_of_notMem notBefore notAfter).1 same
  exact ⟨first, second⟩

/-- In order, a brace between two others stands between them. -/
theorem mem_of_between {before inner after : List Brace} {b c x : Brace}
    (sorted : (before ++ b :: (inner ++ c :: after)).Pairwise fun b c => b.offset < c.offset)
    (member : x ∈ before ++ b :: (inner ++ c :: after)) (later : b.offset < x.offset)
    (earlier : x.offset < c.offset) : x ∈ inner := by
  obtain ⟨-, sorted', follow⟩ := List.pairwise_append.1 sorted
  obtain ⟨-, sorted'', -⟩ := List.pairwise_append.1 (List.pairwise_cons.1 sorted').2
  rcases List.mem_append.1 member with early | member
  · have := follow x early b List.mem_cons_self
    omega
  · rcases List.mem_cons.1 member with rfl | member
    · omega
    · rcases List.mem_append.1 member with between | late
      · exact between
      · rcases List.mem_cons.1 late with rfl | late
        · omega
        · have := (List.pairwise_cons.1 sorted'').1 x late
          omega

end Brace

/-! ## Looking for the end of a body -/

namespace Decl

open Brace

/-- A closing brace in a run is the first of the run, or stands in the rest of it. -/
theorem exists_split_cons {P : List Brace → Nat → Prop} {b : Brace} {bs : List Brace} :
    (∃ inner last after, b :: bs = inner ++ ⟨.closing, last⟩ :: after ∧ P inner last) ↔
      (∃ last, b = ⟨.closing, last⟩ ∧ P [] last) ∨
        ∃ inner last after, bs = inner ++ ⟨.closing, last⟩ :: after ∧ P (b :: inner) last := by
  constructor
  · rintro ⟨inner, last, after, split, holds⟩
    cases inner with
    | nil => exact .inl ⟨last, (List.cons.inj split).1, holds⟩
    | cons c inner =>
      obtain ⟨rfl, rest⟩ := List.cons.inj split
      exact .inr ⟨inner, last, after, rest, holds⟩
  · rintro (⟨last, rfl, holds⟩ | ⟨inner, last, after, rfl, holds⟩)
    · exact ⟨[], last, bs, rfl, holds⟩
    · exact ⟨b :: inner, last, after, rfl, holds⟩

/-- **Counting finds the brace that belongs to an opening one.**  From some levels below a block, the
end is the first brace that leads out of it. -/
theorem closingFrom_eq_some_iff {levels stop : Nat} {bs : List Brace} :
    closingFrom (levels + 1) bs = some stop ↔
      ∃ inner last after, bs = inner ++ ⟨.closing, last⟩ :: after ∧ Climbs levels inner ∧
        stop = last + 1 := by
  induction bs generalizing levels with
  | nil => simp [closingFrom]
  | cons b bs ih =>
    rw [exists_split_cons]
    obtain ⟨kind, offset⟩ := b
    cases kind with
    | opening =>
      rw [closingFrom, ih]
      simp [climbs_opening_iff]
    | closing =>
      cases levels with
      | zero =>
        rw [closingFrom]
        simp [climbs_nil_iff, climbs_closing_iff, eq_comm]
      | succ levels =>
        rw [closingFrom, ih]
        simp [climbs_nil_iff, climbs_closing_iff]

/-- The brace that closes another is the one that counting finds. -/
theorem closes_iff {before after : List Brace} {first last : Nat}
    (sorted : (before ++ ⟨.opening, first⟩ :: after).Pairwise fun b c => b.offset < c.offset) :
    Closes (before ++ ⟨.opening, first⟩ :: after) first last ↔
      closingFrom 1 after = some (last + 1) := by
  rw [closingFrom_eq_some_iff]
  constructor
  · rintro ⟨before', inner, rest, same, block⟩
    obtain ⟨-, rfl⟩ := split_unique sorted same
    exact ⟨inner, last, rest, rfl, block, rfl⟩
  · rintro ⟨inner, last', rest, rfl, block, same⟩
    obtain rfl : last = last' := Nat.succ.inj same
    exact ⟨before, inner, rest, rfl, block⟩

/-- A brace is closed once. -/
theorem closes_unique {braces : List Brace} {first last last' : Nat}
    (sorted : braces.Pairwise fun b c => b.offset < c.offset)
    (closes : Closes braces first last) (closes' : Closes braces first last') : last = last' := by
  obtain ⟨before, after, rfl⟩ := List.append_of_mem closes.opening_mem
  have found := (closes_iff sorted).1 closes
  rw [(closes_iff sorted).1 closes'] at found
  exact (Nat.succ.inj (Option.some.inj found)).symm

/-- **A block that opens in another is closed no later than the other.** -/
theorem closing_le {braces : List Brace} {outer outerEnd inner innerEnd : Nat}
    (sorted : braces.Pairwise fun b c => b.offset < c.offset)
    (around : Closes braces outer outerEnd) (within : Closes braces inner innerEnd)
    (starts : outer ≤ inner) (inside : inner < outerEnd) : innerEnd ≤ outerEnd := by
  rcases Nat.eq_or_lt_of_le starts with rfl | later
  · exact Nat.le_of_eq (closes_unique sorted within around)
  · have member := within.opening_mem
    obtain ⟨before, block, after, rfl, balanced⟩ := around
    obtain ⟨before', block', after', same, balanced'⟩ := within
    have inBlock := mem_of_between sorted member later inside
    obtain ⟨left, right, rfl⟩ := List.append_of_mem inBlock
    have regroup : before ++ ⟨.opening, outer⟩ ::
        (left ++ ⟨.opening, inner⟩ :: right ++ ⟨.closing, outerEnd⟩ :: after)
        = (before ++ ⟨.opening, outer⟩ :: left) ++
          ⟨.opening, inner⟩ :: (right ++ ⟨.closing, outerEnd⟩ :: after) := by
      simp only [List.append_assoc, List.cons_append]
    obtain ⟨-, tail⟩ := split_unique (regroup ▸ sorted) (regroup ▸ same)
    have closed := balanced.closing_mem balanced' tail
    obtain ⟨-, sorted', -⟩ := List.pairwise_append.1 sorted
    obtain ⟨-, -, follow⟩ := List.pairwise_append.1 (List.pairwise_cons.1 sorted').2
    have precedes : innerEnd < outerEnd :=
      follow _ (List.mem_append_right _ (List.mem_cons_of_mem _ closed)) _ List.mem_cons_self
    exact Nat.le_of_lt precedes

/-- The body opens at the first brace that opens. -/
theorem bodyEnd_of_first {before after : List Brace} {start first limit : Nat}
    (sorted : (before ++ ⟨.opening, first⟩ :: after).Pairwise fun b c => b.offset < c.offset)
    (closings : ∀ b ∈ before, start ≤ b.offset → b.kind = .closing)
    (inside : start ≤ first) (early : first < limit) :
    bodyEnd (before ++ ⟨.opening, first⟩ :: after) start limit = closingFrom 1 after := by
  obtain ⟨-, sorted', follow⟩ := List.pairwise_append.1 sorted
  have later : ∀ b ∈ after, first < b.offset := (List.pairwise_cons.1 sorted').1
  have kept : (after.filter fun b => start ≤ b.offset) = after := by
    refine List.filter_eq_self.2 fun b member => decide_eq_true ?_
    exact Nat.le_trans inside (Nat.le_of_lt (later b member))
  have dropped : ∀ b ∈ before.filter fun b => start ≤ b.offset,
      (b.kind == .closing && b.offset < limit) = true := by
    intro b member
    obtain ⟨member, reaches⟩ := List.mem_filter.1 member
    have closing := closings b member (of_decide_eq_true reaches)
    have precedes := follow b member _ List.mem_cons_self
    rw [closing]
    exact decide_eq_true (Nat.lt_trans precedes early)
  rw [bodyEnd, List.filter_append, List.filter_cons, if_pos (decide_eq_true inside), kept,
    List.dropWhile_append_of_pos dropped, List.dropWhile_cons_of_neg (by simp)]
  exact if_pos early

/-- Does the brace open a block at an offset or after it? -/
def opensFrom (start : Nat) (b : Brace) : Bool := b.kind == .opening && start ≤ b.offset

/-- Where a brace opens, there is a first one that does. -/
theorem exists_opensFirst {braces : List Brace} {start offset : Nat}
    (sorted : braces.Pairwise fun b c => b.offset < c.offset)
    (member : ⟨.opening, offset⟩ ∈ braces) (inside : start ≤ offset) :
    ∃ before first after, braces = before ++ ⟨.opening, first⟩ :: after ∧
      (∀ b ∈ before, start ≤ b.offset → b.kind = .closing) ∧ OpensFirst braces start first := by
  have found : (braces.find? (opensFrom start)).isSome := by
    rw [List.find?_isSome]
    exact ⟨_, member, by simp [opensFrom, inside]⟩
  obtain ⟨⟨kind, first⟩, here⟩ := Option.isSome_iff_exists.1 found
  obtain ⟨opens, before, after, split, none⟩ := List.find?_eq_some_iff_append.1 here
  simp only [opensFrom, Bool.and_eq_true, beq_iff_eq, decide_eq_true_eq] at opens
  obtain ⟨rfl, starts⟩ := opens
  have closings : ∀ b ∈ before, start ≤ b.offset → b.kind = .closing := by
    intro b earlier reaches
    have unopened := none b earlier
    cases kind : b.kind with
    | closing => rfl
    | opening => simp [opensFrom, kind, reaches] at unopened
  refine ⟨before, first, after, split, closings, ?_, starts, ?_⟩
  · rw [split]
    exact List.mem_append_right _ List.mem_cons_self
  · intro other opening reaches
    rw [split] at opening sorted
    rcases List.mem_append.1 opening with earlier | later
    · cases closings _ earlier reaches
    · rcases List.mem_cons.1 later with same | later
      · cases same
        exact Nat.le_refl _
      · have := (List.pairwise_cons.1 (List.pairwise_append.1 sorted).2.1).1 _ later
        exact Nat.le_of_lt this

/-- **A body ends after the brace that closes the first one to open.** -/
theorem bodyEnd_eq_some_iff {braces : List Brace} {start limit offset stop : Nat}
    (sorted : braces.Pairwise fun b c => b.offset < c.offset)
    (member : ⟨.opening, offset⟩ ∈ braces) (inside : start ≤ offset) (early : offset < limit) :
    bodyEnd braces start limit = some stop ↔
      ∃ first last, OpensFirst braces start first ∧ Closes braces first last ∧ stop = last + 1 := by
  obtain ⟨before, first, after, rfl, closings, opens⟩ := exists_opensFirst sorted member inside
  have near : first < limit := Nat.lt_of_le_of_lt (opens.least offset member inside) early
  rw [bodyEnd_of_first sorted closings opens.after near]
  constructor
  · intro found
    obtain ⟨_, last, _, _, _, rfl⟩ := closingFrom_eq_some_iff.1 found
    exact ⟨first, last, opens, (closes_iff sorted).2 found, rfl⟩
  · rintro ⟨first', last, opens', closes, rfl⟩
    obtain rfl := opens.eq opens'
    exact (closes_iff sorted).1 closes

end Decl

end Marginalia
