import Marginalia.Proofs.Order.Stable
import Marginalia.Proofs.Owner.Smallest

/-!
# The innermost regions decide

Of the regions around the start of a comment only those of the least size can give
it an owner (`Region.assign_innermost`).  If there is one such region, it does.  If
there are several, the first two of them decide, in the order in which the regions
are given: the comment gets their name if they have the same one, and stays as it is
otherwise (`Region.ownerAt_eq`).

So the order of the regions matters from three on.  Where two innermost regions share
a name and another one has a different name, the comment gets the shared name or none,
depending on which two come first.  In all other cases the order makes no difference
(`Region.assign_perm_iff`).
-/

namespace Marginalia

set_option autoImplicit false

namespace Region

/-! ## The innermost regions -/

/-- Is a region around an offset, and no other one around it smaller? -/
def isInnermost (rs : List Region) (offset : Nat) (r : Region) : Bool :=
  r.holds offset && rs.all fun s => !s.holds offset || r.size ≤ s.size

/-- The smallest of the regions around an offset, in the order given. -/
def innermost (rs : List Region) (offset : Nat) : List Region := rs.filter (isInnermost rs offset)

variable {rs rs' : List Region} {offset : Nat} {r s : Region}

theorem isInnermost_iff : isInnermost rs offset r = true ↔
    r.holds offset = true ∧ ∀ s ∈ rs, s.holds offset = true → r.size ≤ s.size := by
  simp only [isInnermost, Bool.and_eq_true, List.all_eq_true, Bool.or_eq_true, Bool.not_eq_true',
    decide_eq_true_eq]
  refine and_congr_right fun _ => forall₂_congr fun s _ => ?_
  cases s.holds offset <;> simp

theorem mem_innermost : r ∈ innermost rs offset ↔
    r ∈ rs ∧ r.holds offset = true ∧ ∀ s ∈ rs, s.holds offset = true → r.size ≤ s.size := by
  rw [innermost, List.mem_filter, isInnermost_iff]

/-- Innermost regions have the same size. -/
theorem size_eq_of_mem_innermost (first : r ∈ innermost rs offset)
    (second : s ∈ innermost rs offset) : s.size = r.size := by
  obtain ⟨member, holds, least⟩ := mem_innermost.1 first
  obtain ⟨member', holds', least'⟩ := mem_innermost.1 second
  exact Nat.le_antisymm (least' r member holds) (least s member' holds')

theorem isInnermost_congr (same : rs'.Perm rs) (offset : Nat) :
    isInnermost rs' offset = isInnermost rs offset := by
  funext r
  rw [isInnermost, isInnermost, same.all_eq]

/-- Regions in another order have the same innermost ones, in that order. -/
theorem perm_innermost (same : rs'.Perm rs) (offset : Nat) :
    (innermost rs' offset).Perm (innermost rs offset) := by
  rw [innermost, innermost, isInnermost_congr same]
  exact same.filter _

/-! ## The owner at an offset -/

theorem mem_around : s ∈ (bySize rs).filter (·.holds offset) ↔ s ∈ rs ∧ s.holds offset = true := by
  rw [List.mem_filter, (perm_bySize rs).mem_iff]

/-- Innermost regions are tied when regions are sorted by size. -/
theorem filter_isInnermost (rs : List Region) (offset : Nat) :
    ((bySize rs).filter (·.holds offset)).filter (isInnermost rs offset)
      = innermost rs offset := by
  have around : ∀ r, (isInnermost rs offset r && r.holds offset) = isInnermost rs offset r := by
    intro r
    rw [isInnermost, Bool.and_right_comm, Bool.and_self]
  rw [List.filter_filter, funext around, innermost]
  refine Stable.filter_mergeSort sizeLe_trans sizeLe_total fun a _ b member first second => ?_
  exact decide_eq_true ((isInnermost_iff.1 first).2 b member (isInnermost_iff.1 second).1)

/-- Sorted by size, the regions around an offset begin with the innermost ones, in the order given. -/
theorem exists_filter_bySize (rs : List Region) (offset : Nat) :
    ∃ outer, (bySize rs).filter (·.holds offset) = innermost rs offset ++ outer ∧
      ∀ r ∈ innermost rs offset, ∀ s ∈ outer, r.size < s.size := by
  have closed : ((bySize rs).filter (·.holds offset)).Pairwise fun a b =>
      isInnermost rs offset b = true → isInnermost rs offset a = true := by
    have ordered := (pairwise_bySize rs).filter (·.holds offset)
    refine ordered.imp_of_mem fun {a b} first _ smaller least => ?_
    refine isInnermost_iff.2 ⟨(mem_around.1 first).2, fun s member holds => ?_⟩
    exact Nat.le_trans smaller ((isInnermost_iff.1 least).2 s member holds)
  have split := Stable.filter_append_filter closed
  rw [filter_isInnermost] at split
  refine ⟨_, split.symm, fun r first s later => ?_⟩
  obtain ⟨around, larger⟩ := List.mem_filter.1 later
  obtain ⟨-, -, least⟩ := mem_innermost.1 first
  by_contra small
  have inner : isInnermost rs offset s = true :=
    isInnermost_iff.2 ⟨(mem_around.1 around).2, fun t member holds =>
      Nat.le_trans (Nat.le_of_not_lt small) (least t member holds)⟩
  rw [inner] at larger
  cases larger

/-- **The first two innermost regions decide**, in the order given. -/
theorem ownerAt_eq (rs : List Region) (offset : Nat) :
    ownerAt (bySize rs) offset = ownerAmong (innermost rs offset) := by
  obtain ⟨outer, split, larger⟩ := exists_filter_bySize rs offset
  have ordered := (pairwise_bySize rs).filter (·.holds offset)
  rw [ownerAt, split]
  cases inner : innermost rs offset with
  | nil =>
    rw [inner, List.nil_append] at split
    cases outer with
    | nil => rfl
    | cons s outer =>
      -- The first region of all around the offset is an innermost one.
      have least : ∀ t ∈ rs, t.holds offset = true → s.size ≤ t.size := by
        intro t member holds
        have here := mem_around.2 ⟨member, holds⟩
        rw [split] at here ordered
        rcases List.mem_cons.1 here with rfl | later
        · exact Nat.le_refl _
        · exact (List.pairwise_cons.1 ordered).1 t later
      have around := mem_around.1 (split ▸ List.mem_cons_self : s ∈ _)
      have member : s ∈ innermost rs offset := mem_innermost.2 ⟨around.1, around.2, least⟩
      rw [inner] at member
      cases member
  | cons r rest =>
    cases rest with
    | cons s more => rfl
    | nil =>
      cases outer with
      | nil => rfl
      | cons s outer =>
        have differ := larger r (inner ▸ List.mem_cons_self) s List.mem_cons_self
        have untied : ¬ (s.size = r.size ∧ s.name ≠ r.name) := fun tie => by omega
        simp only [List.cons_append, List.nil_append, ownerAmong, if_neg untied]

theorem assign_eq_map (rs : List Region) (comments : List Comment) :
    assign rs comments = comments.map fun c =>
      { c with owner := (ownerAmong (innermost rs c.offset)).or c.owner } := by
  rw [assign]
  refine List.map_congr_left fun c _ => ?_
  rw [ownerAt_eq]
  cases ownerAmong (innermost rs c.offset) <;> rfl

/-- What becomes of a comment. -/
theorem getElem?_assign_eq {comments : List Comment} {i : Nat} {c : Comment}
    (here : comments[i]? = some c) (rs : List Region) :
    (assign rs comments)[i]?
      = some { c with owner := (ownerAmong (innermost rs c.offset)).or c.owner } := by
  rw [assign_eq_map, List.getElem?_map, here, Option.map_some]

theorem ownerAmong_cons_cons {more : List Region} (same : s.size = r.size) :
    ownerAmong (r :: s :: more) = if s.name = r.name then some r.name else none := by
  by_cases name : s.name = r.name <;> simp [ownerAmong, same, name]

theorem exists_of_ownerAmong {rs : List Region} {name : Bytes} (owner : ownerAmong rs = some name) :
    ∃ r ∈ rs, r.name = name := by
  match rs with
  | [] => cases owner
  | [r] => exact ⟨r, List.mem_cons_self, Option.some.inj owner⟩
  | r :: s :: more =>
    rw [ownerAmong] at owner
    split at owner
    · cases owner
    · exact ⟨r, List.mem_cons_self, Option.some.inj owner⟩

/-- **The innermost region wins.**  A comment that starts in no region stays as it is.  A name that is
given to a comment is that of a region around its start, and no region around its start is smaller.  If
there is just one such region, its name is given. -/
theorem assign_innermost (rs : List Region) (comments : List Comment) :
    (assign rs comments).length = comments.length ∧
    ∀ (i : Nat) (c : Comment), comments[i]? = some c → ∃ given : Option Bytes,
      (assign rs comments)[i]? = some { c with owner := given.or c.owner } ∧
      ((∀ r ∈ rs, r.holds c.offset = false) → given = none) ∧
      (∀ name, given = some name → ∃ r ∈ rs, r.name = name ∧ r.holds c.offset = true ∧
        ∀ s ∈ rs, s.holds c.offset = true → r.size ≤ s.size) ∧
      ∀ r, innermost rs c.offset = [r] → given = some r.name := by
  refine ⟨by rw [assign, List.length_map], fun i c here => ?_⟩
  refine ⟨ownerAmong (innermost rs c.offset), ?_, ?_, ?_, ?_⟩
  · exact getElem?_assign_eq here rs
  · intro outside
    have none : innermost rs c.offset = [] := by
      refine List.eq_nil_iff_forall_not_mem.2 fun r member => ?_
      obtain ⟨member, holds, -⟩ := mem_innermost.1 member
      rw [outside r member] at holds
      cases holds
    rw [none]
    rfl
  · intro name owner
    obtain ⟨r, member, named⟩ := exists_of_ownerAmong owner
    obtain ⟨member, holds, least⟩ := mem_innermost.1 member
    exact ⟨r, member, named, holds, least⟩
  · intro r only
    rw [only]
    rfl

/-! ## Regions in another order -/

/-- Is a name shared by two innermost regions around an offset, while another one has a different
name? -/
def Contested (rs : List Region) (offset : Nat) (name : Bytes) : Prop :=
  1 < (innermost rs offset).countP (fun r => r.name = name) ∧
    ∃ s ∈ innermost rs offset, s.name ≠ name

/-- Regions that all have one name give it. -/
theorem ownerAmong_of_forall {name : Bytes} (some_ : rs ≠ []) (all : ∀ r ∈ rs, r.name = name) :
    ownerAmong rs = some name := by
  match rs with
  | [] => exact absurd rfl some_
  | [r] => exact congrArg some (all r List.mem_cons_self)
  | r :: s :: more =>
    have first := all r List.mem_cons_self
    have second := all s (List.mem_cons_of_mem _ List.mem_cons_self)
    simp [ownerAmong, first, second]

/-- Innermost regions with different names leave a comment as it is, unless they contest a name that it
does not have. -/
theorem ownerAmong_or_eq {owner : Option Bytes}
    (uncontested : ∀ name, Contested rs offset name → owner = some name)
    (first : r ∈ innermost rs offset) (second : s ∈ innermost rs offset)
    (differ : s.name ≠ r.name) : (ownerAmong (innermost rs offset)).or owner = owner := by
  cases given : ownerAmong (innermost rs offset) with
  | none => rfl
  | some name =>
    refine (uncontested name ⟨?_, ?_⟩).symm
    · match inner : innermost rs offset with
      | [] =>
        rw [inner] at first
        cases first
      | [t] =>
        rw [inner, List.mem_singleton] at first second
        exact absurd (by rw [first, second]) differ
      | t :: u :: more =>
        have member : t ∈ innermost rs offset := by
          rw [inner]
          exact List.mem_cons_self
        have member' : u ∈ innermost rs offset := by
          rw [inner]
          exact List.mem_cons_of_mem _ List.mem_cons_self
        rw [inner, ownerAmong_cons_cons (size_eq_of_mem_innermost member member')] at given
        split at given
        next same =>
          cases given
          simp [same]
        next => cases given
    · by_cases here : r.name = name
      · exact ⟨s, second, here ▸ differ⟩
      · exact ⟨r, first, here⟩

theorem Contested.of_perm {name : Bytes} (perm : rs'.Perm rs)
    (contested : Contested rs' offset name) : Contested rs offset name := by
  obtain ⟨twice, s, member, differ⟩ := contested
  have same := perm_innermost perm offset
  exact ⟨same.countP_eq _ ▸ twice, s, same.mem_iff.1 member, differ⟩

/-- Without a contested name, the order of the regions makes no difference. -/
theorem ownerAmong_or_congr {owner : Option Bytes} (perm : rs'.Perm rs)
    (uncontested : ∀ name, Contested rs offset name → owner = some name) :
    (ownerAmong (innermost rs' offset)).or owner = (ownerAmong (innermost rs offset)).or owner := by
  have same := perm_innermost perm offset
  have uncontested' : ∀ name, Contested rs' offset name → owner = some name :=
    fun name contested => uncontested name (contested.of_perm perm)
  by_cases mixed : ∃ r ∈ innermost rs offset, ∃ s ∈ innermost rs offset, s.name ≠ r.name
  · obtain ⟨r, first, s, second, differ⟩ := mixed
    rw [ownerAmong_or_eq uncontested first second differ,
      ownerAmong_or_eq uncontested' (same.mem_iff.2 first) (same.mem_iff.2 second) differ]
  · by_cases none : innermost rs offset = []
    · rw [none] at same
      rw [none, same.eq_nil]
    · obtain ⟨r, first⟩ := List.exists_mem_of_ne_nil _ none
      have all : ∀ s ∈ innermost rs offset, s.name = r.name := fun s member =>
        not_not.1 fun differ => mixed ⟨r, first, s, member, differ⟩
      rw [ownerAmong_of_forall none all, ownerAmong_of_forall
        (List.ne_nil_of_mem (same.mem_iff.2 first)) fun s member => all s (same.subset member)]

/-- Two innermost regions can come first, whatever the order was. -/
theorem innermost_cons_cons {rest : List Region} (same : (r :: s :: rest).Perm rs)
    (first : r ∈ innermost rs offset) (second : s ∈ innermost rs offset) :
    ownerAmong (innermost (r :: s :: rest) offset)
      = if s.name = r.name then some r.name else none := by
  have inner := isInnermost_congr same offset
  have here : isInnermost rs offset r = true := (List.mem_filter.1 first).2
  have here' : isInnermost rs offset s = true := (List.mem_filter.1 second).2
  rw [innermost, inner, List.filter_cons_of_pos here, List.filter_cons_of_pos here',
    ownerAmong_cons_cons (size_eq_of_mem_innermost first second)]

/-- A contested name is given in one order of the regions, and no name is given in another one. -/
theorem Contested.exists_perm {name : Bytes} (contested : Contested rs offset name) :
    (∃ rs', rs'.Perm rs ∧ ownerAmong (innermost rs' offset) = some name) ∧
    ∃ rs', rs'.Perm rs ∧ ownerAmong (innermost rs' offset) = none := by
  obtain ⟨twice, s, member, differ⟩ := contested
  obtain ⟨r, r', more, shared⟩ : ∃ r r' more,
      (innermost rs offset).filter (fun t => t.name = name) = r :: r' :: more := by
    rw [List.countP_eq_length_filter] at twice
    match found : (innermost rs offset).filter (fun t => t.name = name) with
    | [] => simp [found] at twice
    | [_] => simp [found] at twice
    | r :: r' :: more => exact ⟨r, r', more, found⟩
  have named : ∀ t ∈ r :: r' :: more, t ∈ innermost rs offset ∧ t.name = name := by
    intro t among
    rw [← shared, List.mem_filter, decide_eq_true_eq] at among
    exact among
  obtain ⟨first, name₁⟩ := named r List.mem_cons_self
  obtain ⟨second, name₂⟩ := named r' (List.mem_cons_of_mem _ List.mem_cons_self)
  -- The two regions of the name and the other one are taken to the front.
  obtain ⟨rest, front⟩ : ∃ rest, (r :: r' :: s :: rest).Perm rs := by
    have among : [r, r'].Sublist rs := by
      have pair : [r, r'].Sublist (r :: r' :: more) := List.sublist_append_left [r, r'] more
      rw [← shared] at pair
      exact (pair.trans List.filter_sublist).trans List.filter_sublist
    obtain ⟨tail, split⟩ := among.exists_perm_append
    have later : s ∈ tail := by
      have here := split.subset (mem_innermost.1 member).1
      simp only [List.cons_append, List.nil_append, List.mem_cons] at here
      rcases here with rfl | rfl | later
      · exact absurd name₁ differ
      · exact absurd name₂ differ
      · exact later
    exact ⟨tail.erase s, (((List.perm_cons_erase later).symm.cons r').cons r).trans split.symm⟩
  refine ⟨⟨_, front, ?_⟩, ⟨r :: s :: r' :: rest, ?_, ?_⟩⟩
  · rw [innermost_cons_cons front first second, if_pos (by rw [name₁, name₂]), name₁]
  · exact (List.Perm.cons r (List.Perm.swap r' s rest)).trans front
  · have front' : (r :: s :: r' :: rest).Perm rs :=
      (List.Perm.cons r (List.Perm.swap r' s rest)).trans front
    rw [innermost_cons_cons front' first member, if_neg (by rw [name₁]; exact differ)]

/-- **When the order of the regions matters.**  Where there are several innermost regions, the first two
in the order given decide: a comment gets their name if they have the same one, and stays as it is
otherwise.  So comments get the same owners in every order of the regions exactly when none of them
lacks a name that is contested at its start. -/
theorem assign_perm_iff (rs : List Region) (comments : List Comment) :
    (∀ (i : Nat) (c : Comment) (r s : Region) (more : List Region), comments[i]? = some c →
      innermost rs c.offset = r :: s :: more →
      (assign rs comments)[i]?
        = some (if s.name = r.name then { c with owner := some r.name } else c)) ∧
    ((∀ rs' : List Region, rs'.Perm rs → assign rs' comments = assign rs comments) ↔
      ∀ c ∈ comments, ∀ name, Contested rs c.offset name → c.owner = some name) := by
  refine ⟨?_, ?_, ?_⟩
  · intro i c r s more here inner
    have first : r ∈ innermost rs c.offset := by simp [inner]
    have second : s ∈ innermost rs c.offset := by simp [inner]
    have size := size_eq_of_mem_innermost first second
    rw [getElem?_assign_eq here, inner, ownerAmong_cons_cons size]
    split <;> rfl
  · intro stable c member name contested
    obtain ⟨⟨rs₁, perm₁, given⟩, ⟨rs₂, perm₂, none⟩⟩ := contested.exists_perm
    obtain ⟨i, here⟩ := List.mem_iff_getElem?.1 member
    have same : (assign rs₁ comments)[i]? = (assign rs₂ comments)[i]? := by
      rw [stable rs₁ perm₁, stable rs₂ perm₂]
    rw [getElem?_assign_eq here, getElem?_assign_eq here, given, none] at same
    exact (congrArg Comment.owner (Option.some.inj same)).symm
  · intro uncontested rs' perm
    rw [assign_eq_map, assign_eq_map]
    refine List.map_congr_left fun c member => ?_
    rw [ownerAmong_or_congr perm (uncontested c member)]

/-- The regions of three functions, each of which is closed on the line where the next one begins; two
have the same name. -/
def chained : List Region := [⟨utf8 "f", 0, 57⟩, ⟨utf8 "f", 24, 81⟩, ⟨utf8 "g", 48, 105⟩]

/-- A comment before the brace that closes the first of the functions. -/
def chainedNote : Comment := ⟨.block, utf8 " x ", utf8 "/* x */", 48, 55, 2, 25, none⟩

/-- The comment gets the name that two of the three functions share, and in another order none. -/
theorem assign_chained_ne :
    assign chained [chainedNote] = [{ chainedNote with owner := some (utf8 "f") }] ∧
    ∃ rs', rs'.Perm chained ∧ assign rs' [chainedNote] ≠ assign chained [chainedNote] := by
  have inner : innermost chained chainedNote.offset = chained := by decide +kernel
  obtain ⟨first, stable⟩ := assign_perm_iff chained [chainedNote]
  constructor
  · refine List.ext_getElem? fun i => ?_
    cases i with
    | zero => exact first 0 chainedNote _ _ _ rfl inner
    | succ i => rfl
  · by_contra same
    have contested : Contested chained chainedNote.offset (utf8 "f") := by
      rw [Contested, inner]
      decide
    have owner := stable.1 (fun rs' perm => not_not.1 fun differ => same ⟨rs', perm, differ⟩)
      chainedNote List.mem_cons_self _ contested
    cases owner

end Region

end Marginalia
