import Marginalia.Owner.Resolver
import Marginalia.Proofs.Owner.Braces
import Marginalia.Proofs.Owner.DocRun
import Marginalia.Proofs.Owner.Smallest

/-!
# How far the body of a declaration reaches

The line of a declaration may open several blocks: a parameter that is taken
apart, a type, a default value, and the body.  The region of the declaration ends
where the first of them is closed.  So it takes in a block that goes on below the
line exactly when the first block of the line goes on below the line; the first
one is then around all others that do.  Otherwise the region ends with the line or
on it.

What stands in the region belongs to the declaration unless a region that is no
larger holds it as well.
-/

namespace Marginalia

set_option autoImplicit false

namespace Decl

open Brace

/-- The first block that opens on the line of a declaration is closed below the line. -/
def LeavesLine (braces : List Brace) (d : Decl) : Prop :=
  ∃ first last, OpensFirst braces d.lineStart first ∧ Closes braces first last ∧ d.lineEnd ≤ last

/-! ## Regions and their declarations -/

theorem getElem?_regions (scan : Scan) (ds : List Decl) (i : Nat) :
    (regions scan ds)[i]? = ds[i]?.map fun d => d.region scan ds[i + 1]? := by
  induction ds generalizing i with
  | nil => rfl
  | cons d ds ih =>
    rw [regions]
    cases i with
    | zero =>
      rw [List.getElem?_cons_zero, List.getElem?_cons_zero, List.getElem?_cons_succ,
        List.head?_eq_getElem?]
      rfl
    | succ i => rw [List.getElem?_cons_succ, List.getElem?_cons_succ, List.getElem?_cons_succ, ih]

variable {matchers : List LineMatcher} {content : Bytes} {comments : List Comment}

/-- The next declaration does not keep a body from opening on the line. -/
theorem lineEnd_le_limit {i : Nat} {d : Decl}
    (found : (find matchers content comments)[i]? = some d) :
    d.lineEnd ≤ (find matchers content comments)[i + 1]?.elim d.headEnd fun n =>
      min d.headEnd n.lineStart := by
  have head := lineEnd_le_headEnd (List.mem_of_getElem? found)
  cases next : (find matchers content comments)[i + 1]? with
  | none => exact head
  | some n =>
    obtain ⟨bound, rfl⟩ := List.getElem?_eq_some_iff.1 found
    obtain ⟨bound', rfl⟩ := List.getElem?_eq_some_iff.1 next
    have order := List.pairwise_iff_getElem.1 (find_pairwise matchers content comments)
      i (i + 1) bound bound' (Nat.lt_succ_self i)
    exact Nat.le_min.2 ⟨head, order⟩

/-! ## Where regions end -/

section

variable {scan : Scan} {d : Decl} {next : Option Decl}
  (sorted : scan.braces.Pairwise fun b c => b.offset < c.offset)
  (limit : d.lineEnd ≤ next.elim d.headEnd fun n => min d.headEnd n.lineStart)

include sorted limit

/-- A region ends after the brace that closes the first block of the line. -/
theorem stop_of_closes {first last : Nat} (opens : OpensFirst scan.braces d.lineStart first)
    (onLine : first < d.lineEnd) (closes : Closes scan.braces first last) :
    (d.region scan next).stop = last + 1 := by
  have near := Nat.lt_of_lt_of_le onLine limit
  have body := (bodyEnd_eq_some_iff sorted opens.member opens.after near).2
    ⟨first, last, opens, closes, rfl⟩
  simp only [region, body, Option.getD_some]

/-- A region goes on below the line when the first block of the line does. -/
theorem leavesLine_iff {offset : Nat} (member : ⟨.opening, offset⟩ ∈ scan.braces)
    (starts : d.lineStart ≤ offset) (onLine : offset < d.lineEnd) :
    LeavesLine scan.braces d ↔ d.lineEnd < (d.region scan next).stop := by
  constructor
  · rintro ⟨first, last, opens, closes, below⟩
    have early := Nat.lt_of_le_of_lt (opens.least offset member starts) onLine
    rw [stop_of_closes sorted limit opens early closes]
    exact Nat.lt_succ_of_le below
  · intro beyond
    simp only [region] at beyond
    cases body : bodyEnd scan.braces d.lineStart
        (next.elim d.headEnd fun n => min d.headEnd n.lineStart) with
    | none =>
      rw [body, Option.getD_none] at beyond
      exact absurd beyond (Nat.lt_irrefl _)
    | some stop =>
      rw [body, Option.getD_some] at beyond
      have near := Nat.lt_of_lt_of_le onLine limit
      obtain ⟨first, last, opens, closes, rfl⟩ :=
        (bodyEnd_eq_some_iff sorted member starts near).1 body
      exact ⟨first, last, opens, closes, Nat.le_of_lt_succ beyond⟩

/-- If the first block of the line goes on below the line, all others that open on the line are
closed in it or before it. -/
theorem lt_stop_of_leavesLine {offset last : Nat} (leaves : LeavesLine scan.braces d)
    (closes : Closes scan.braces offset last) (starts : d.lineStart ≤ offset)
    (onLine : offset < d.lineEnd) : last < (d.region scan next).stop := by
  obtain ⟨outer, outerEnd, opens, around, below⟩ := leaves
  have first := opens.least offset closes.opening_mem starts
  rw [stop_of_closes sorted limit opens (Nat.lt_of_le_of_lt first onLine) around]
  exact Nat.lt_succ_of_le (closing_le sorted around closes first (Nat.lt_of_lt_of_le onLine below))

end

/-! ## Comments in the block -/

/-- A comment belongs to the smallest region around its start. -/
theorem getElem?_assign {rs : List Region} {i k : Nat} {r : Region} {c : Comment}
    (here : rs[i]? = some r) (present : comments[k]? = some c) (holds : r.holds c.offset = true)
    (smallest : ∀ j s, j ≠ i → rs[j]? = some s → s.holds c.offset = true → r.size < s.size) :
    (Region.assign rs comments)[k]? = some { c with owner := some r.name } := by
  simp only [Region.assign, List.getElem?_map, present, Option.map_some,
    Region.ownerAt_of_smallest here holds smallest]

/-- **When the block that a declaration opens belongs to it.**  A block opens on the line of a
declaration and goes on below the line.  The region of the declaration takes the block in exactly when
the first block of the line goes on below the line.  Then every comment that starts in the block, and
in no other region that is at most as large, gets the name of the declaration; else the region does not
go beyond the line.  In a text whose offsets have 32 bits the declarations are those of the program. -/
theorem block_owned_iff (normalize : Bool) (content : Bytes) (matchers : List LineMatcher)
    (scan : Scan) (scanned : scan = Scan.ofText normalize content)
    (i : Nat) (d : Decl) (found : (find matchers content scan.comments)[i]? = some d)
    (r : Region) (owns : (scan.regionsByLine matchers content)[i]? = some r)
    (opening closing : Nat) (starts : d.lineStart ≤ opening) (onLine : opening < d.lineEnd)
    (closes : Closes scan.braces opening closing) (below : d.lineEnd ≤ closing) :
    (closing < r.stop ↔ LeavesLine scan.braces d) ∧
    (LeavesLine scan.braces d → ∀ (k : Nat) (c : Comment), scan.comments[k]? = some c →
      opening < c.offset → c.offset < closing →
      (∀ (j : Nat) (s : Region), j ≠ i → (scan.regionsByLine matchers content)[j]? = some s →
        s.holds c.offset = true → r.size < s.size) →
      ((Resolver.pattern matchers).resolve content scan).1.comments[k]?
        = some { c with owner := some d.name }) ∧
    (¬ LeavesLine scan.braces d → r.stop ≤ d.lineEnd) ∧
    WordDecl.Unwrapped matchers content scan.comments := by
  have sorted : scan.braces.Pairwise fun b c => b.offset < c.offset := by
    rw [scanned]
    exact Scan.braces_pairwise normalize content
  have limit := lineEnd_le_limit found
  have isRegion : r = d.region scan (find matchers content scan.comments)[i + 1]? := by
    rw [Scan.regionsByLine, getElem?_regions, found] at owns
    exact (Option.some.inj owns).symm
  have leaves_iff : LeavesLine scan.braces d ↔ d.lineEnd < r.stop := by
    rw [isRegion]
    exact leavesLine_iff sorted limit closes.opening_mem starts onLine
  have reaches (leaves : LeavesLine scan.braces d) : closing < r.stop := by
    rw [isRegion]
    exact lt_stop_of_leavesLine sorted limit leaves closes starts onLine
  refine ⟨⟨fun reached => leaves_iff.2 (Nat.lt_of_le_of_lt below reached), reaches⟩, ?_,
    fun stays => Nat.le_of_not_lt fun beyond => stays (leaves_iff.2 beyond), WordDecl.counts_find⟩
  intro leaves k c present after before smallest
  have startsAbove : r.start ≤ d.lineStart := by
    rw [isRegion, scanned]
    exact docStart_le normalize content d
  have holds : r.holds c.offset = true := by
    have := reaches leaves
    simp only [Region.holds, Bool.and_eq_true, decide_eq_true_eq]
    omega
  have name : r.name = d.name := by rw [isRegion, region]
  rw [← name]
  exact getElem?_assign owns present holds smallest

/-- Two functions, the first of which takes its parameter apart. -/
def twoBodies : Bytes :=
  utf8 "fn f(\x7b a \x7d) \x7b\n  // one\n\x7d\nfn g() \x7b\n  // two\n\x7d\n"

/-- The first function of `twoBodies`. -/
def takesApart : Decl := ⟨utf8 "f", 3, 1, 0, 14, 23⟩

/-- The second function of `twoBodies`. -/
def takesNothing : Decl := ⟨utf8 "g", 28, 4, 25, 34, 43⟩

/-- The comment in the second function of `twoBodies`. -/
def noteTwo : Comment := ⟨.line, utf8 " two", utf8 "// two", 36, 42, 5, 3, none⟩

theorem scan_twoBodies :
    (Scan.ofText false twoBodies).comments[1]? = some noteTwo ∧
    (Scan.ofText false twoBodies).braces
      = [⟨.opening, 5⟩, ⟨.closing, 9⟩, ⟨.opening, 12⟩, ⟨.closing, 23⟩, ⟨.opening, 32⟩,
        ⟨.closing, 43⟩] := by
  decide +kernel

theorem find_twoBodies :
    find [fnLine] twoBodies (Scan.ofText false twoBodies).comments
      = [takesApart, takesNothing] := by
  decide +kernel

theorem regions_twoBodies :
    (Scan.ofText false twoBodies).regionsByLine [fnLine] twoBodies
      = [⟨utf8 "f", 0, 10⟩, ⟨utf8 "g", 25, 44⟩] := by
  decide +kernel

/-- The body of the second function belongs to it.  That of the first one does not: its line opens and
closes a block before the body. -/
theorem twoBodies_owned :
    Closes (Scan.ofText false twoBodies).braces 12 23 ∧
    ¬ LeavesLine (Scan.ofText false twoBodies).braces takesApart ∧
    Closes (Scan.ofText false twoBodies).braces 32 43 ∧
    LeavesLine (Scan.ofText false twoBodies).braces takesNothing ∧
    ((Resolver.pattern [fnLine]).resolve twoBodies (Scan.ofText false twoBodies)).1.comments[1]?
      = some { noteTwo with owner := some (utf8 "g") } := by
  obtain ⟨note, braces⟩ := scan_twoBodies
  have first : Closes (Scan.ofText false twoBodies).braces 12 23 :=
    ⟨[⟨.opening, 5⟩, ⟨.closing, 9⟩], [], [⟨.opening, 32⟩, ⟨.closing, 43⟩], braces,
      climbs_nil_iff.2 rfl⟩
  have second : Closes (Scan.ofText false twoBodies).braces 32 43 :=
    ⟨[⟨.opening, 5⟩, ⟨.closing, 9⟩, ⟨.opening, 12⟩, ⟨.closing, 23⟩], [], [], braces,
      climbs_nil_iff.2 rfl⟩
  have stays := (block_owned_iff false twoBodies [fnLine] _ rfl 0 takesApart
    (by rw [find_twoBodies]; rfl) ⟨utf8 "f", 0, 10⟩ (by rw [regions_twoBodies]; rfl) 12 23
    (by decide) (by decide) first (by decide)).1
  obtain ⟨leaves, owner, -⟩ := block_owned_iff false twoBodies [fnLine] _ rfl 1 takesNothing
    (by rw [find_twoBodies]; rfl) ⟨utf8 "g", 25, 44⟩ (by rw [regions_twoBodies]; rfl) 32 43
    (by decide) (by decide) second (by decide)
  have beyond := leaves.1 (by decide)
  refine ⟨first, fun crosses => absurd (stays.2 crosses) (by decide), second, beyond, ?_⟩
  refine owner beyond 1 noteTwo note (by decide) (by decide) ?_
  intro j s other here held
  rw [regions_twoBodies] at here
  match j with
  | 0 =>
    cases here
    cases held
  | 1 => exact absurd rfl other
  | j + 2 => cases here

end Decl

end Marginalia
