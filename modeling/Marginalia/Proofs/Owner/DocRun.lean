import Marginalia.Proofs.Owner.Place
import Marginalia.Proofs.Owner.WordDecl

/-!
# How far the documentation of a declaration reaches

The documentation of a declaration is a run of comments: the last comment that
ends on the line above the declaration, the last comment that ends on the line
above that one, and so on.  The region of the declaration starts where the run
starts.

A run looks at the lines comments end on, and never at the code beside them.  So
it can pass over an earlier declaration, but only by way of a comment that stands
on the line of that declaration itself; a comment above it does not carry the run
across.
-/

namespace Marginalia

set_option autoImplicit false

namespace Decl

/-! ## The run -/

/-- Among the comments that start before an offset, `c` is the last to end on a line. -/
structure EndsLast (comments : List Comment) (before : Nat) (line : Int) (c : Comment) : Prop where
  member : c ∈ comments
  starts : c.offset < before
  ends : lastLine c = line
  last : ∀ d ∈ comments, d.offset < before → lastLine d = line → d.offset ≤ c.offset

/-- The run of comments, each of which ends on the line before the one below it; the lowest ends on
the given line. -/
inductive InRun (comments : List Comment) (before : Nat) : Int → Comment → Prop
  | lowest {line : Int} {c : Comment} : EndsLast comments before line c →
      InRun comments before line c
  | further {line : Int} {b c : Comment} : EndsLast comments before line b →
      InRun comments before (b.line - 1) c → InRun comments before line c

/-- The comments that document a declaration. -/
def Documents (comments : List Comment) (d : Decl) : Comment → Prop :=
  InRun comments d.lineStart (d.line - 1)

/-- The comment starts on the line of the declaration. -/
def OnLineOf (d : Decl) (c : Comment) : Prop := d.lineStart ≤ c.offset ∧ c.offset < d.lineEnd

variable {comments : List Comment} {before : Nat} {line : Int} {c : Comment}

theorem InRun.member (run : InRun comments before line c) : c ∈ comments := by
  induction run with
  | lowest ends => exact ends.member
  | further _ _ ih => exact ih

theorem InRun.starts (run : InRun comments before line c) : c.offset < before := by
  induction run with
  | lowest ends => exact ends.starts
  | further _ _ ih => exact ih

/-- A run begins with a comment that ends on its line. -/
theorem InRun.exists_endsLast (run : InRun comments before line c) :
    ∃ b, EndsLast comments before line b := by
  cases run with
  | lowest ends => exact ⟨c, ends⟩
  | further ends _ => exact ⟨_, ends⟩

theorem line_le_lastLine (c : Comment) : c.line ≤ lastLine c := by
  rw [lastLine]
  omega

/-! ## Walking up the run -/

/-- Comments as a scan gives them, last first: each has bytes, and ends before the one after it and
not on a later line than that one starts on. -/
def Descending (above : List Comment) : Prop :=
  (∀ c ∈ above, c.offset < c.ending) ∧
    above.Pairwise fun c d => d.ending ≤ c.offset ∧ lastLine d ≤ c.line

/-- What the walk has left behind cannot belong to the rest of the run. -/
def LeftBehind (comments : List Comment) (before : Nat) (expect : Int) (above : List Comment) :
    Prop :=
  ∀ c ∈ comments, c ∉ above → before ≤ c.offset ∨ expect < lastLine c

variable {above : List Comment} {expect : Int} {start : Nat}

theorem Descending.tail (ordered : Descending (c :: above)) : Descending above :=
  ⟨fun d member => ordered.1 d (List.mem_cons_of_mem _ member), (List.pairwise_cons.1 ordered.2).2⟩

theorem Descending.offset_lt (ordered : Descending (c :: above)) {d : Comment}
    (member : d ∈ above) : d.offset < c.offset := by
  have nonempty := ordered.1 d (List.mem_cons_of_mem _ member)
  have follows := ((List.pairwise_cons.1 ordered.2).1 d member).1
  omega

/-- A comment that the walk passes by stays behind. -/
theorem LeftBehind.skip (left : LeftBehind comments before expect (c :: above))
    (passed : before ≤ c.offset ∨ expect < lastLine c) :
    LeftBehind comments before expect above := by
  intro d member absent
  by_cases same : d = c
  · rw [same]
    exact passed
  · exact left d member (List.not_mem_cons_of_ne_of_not_mem same absent)

/-- From a comment of the run the walk goes on to the line above it. -/
theorem LeftBehind.climb (left : LeftBehind comments before expect (c :: above))
    (ends : lastLine c = expect) : LeftBehind comments before (c.line - 1) above := by
  have rises := line_le_lastLine c
  intro d member absent
  by_cases same : d = c
  · rw [same]
    exact .inr (by omega)
  · rcases left d member (List.not_mem_cons_of_ne_of_not_mem same absent) with later | lower
    · exact .inl later
    · exact .inr (by omega)

/-- A comment that ends on the expected line has not been left behind. -/
theorem LeftBehind.ahead (left : LeftBehind comments before expect above) (member : c ∈ comments)
    (starts : c.offset < before) (ends : lastLine c = expect) : c ∈ above := by
  by_contra absent
  rcases left c member absent with late | lower
  · omega
  · omega

/-- The first comment that ends on the expected line is the last one to do so in the text. -/
theorem endsLast_of_head (ordered : Descending (c :: above)) (member : c ∈ comments)
    (left : LeftBehind comments before expect (c :: above)) (starts : c.offset < before)
    (ends : lastLine c = expect) : EndsLast comments before expect c := by
  refine ⟨member, starts, ends, ?_⟩
  intro d inText early same
  rcases List.mem_cons.1 (left.ahead inText early same) with rfl | later
  · exact Nat.le_refl _
  · exact Nat.le_of_lt (ordered.offset_lt later)

/-- Two comments that are last to end on a line are the same; one of them is ahead of the walk. -/
theorem EndsLast.eq_head (ordered : Descending (c :: above))
    (left : LeftBehind comments before expect (c :: above)) {b : Comment}
    (first : EndsLast comments before expect b) (second : EndsLast comments before expect c) :
    b = c := by
  have latest := first.last c second.member second.starts second.ends
  rcases List.mem_cons.1 (left.ahead first.member first.starts first.ends) with same | later
  · exact same
  · have := ordered.offset_lt later
    omega

/-- Above its lowest comment a run goes on from the line above that comment. -/
theorem EndsLast.inRun_iff (lowest : EndsLast comments before expect c)
    (ordered : Descending (c :: above)) (left : LeftBehind comments before expect (c :: above))
    {x : Comment} :
    InRun comments before expect x ↔ x = c ∨ InRun comments before (c.line - 1) x := by
  constructor
  · intro run
    cases run with
    | lowest ends => exact .inl (ends.eq_head ordered left lowest)
    | further ends run =>
      rw [ends.eq_head ordered left lowest] at run
      exact .inr run
  · rintro (rfl | run)
    · exact .lowest lowest
    · exact .further lowest run

theorem docStartFrom_le (bound : ∀ c ∈ above, c.offset ≤ start) (ordered : Descending above) :
    docStartFrom before start expect above ≤ start := by
  induction above generalizing start expect with
  | nil => exact Nat.le_refl _
  | cons c above ih =>
    have passed : docStartFrom before start expect above ≤ start :=
      ih (fun d member => bound d (List.mem_cons_of_mem _ member)) ordered.tail
    rw [docStartFrom]
    split
    · exact passed
    · split
      · have further : docStartFrom before c.offset (c.line - 1) above ≤ c.offset :=
          ih (fun d member => Nat.le_of_lt (ordered.offset_lt member)) ordered.tail
        exact Nat.le_trans further (bound c List.mem_cons_self)
      · split
        · exact Nat.le_refl _
        · exact passed

/-- **The walk finds the top of the run**: it ends at a comment of the run, or has not moved, and no
comment of the run starts before it. -/
theorem docStartFrom_run (start : Nat) (ordered : Descending above)
    (subset : ∀ c ∈ above, c ∈ comments) (left : LeftBehind comments before expect above) :
    (∀ c, InRun comments before expect c → docStartFrom before start expect above ≤ c.offset) ∧
    (docStartFrom before start expect above = start ∨
      ∃ c, InRun comments before expect c ∧
        docStartFrom before start expect above = c.offset) := by
  induction above generalizing start expect with
  | nil =>
    refine ⟨?_, .inl rfl⟩
    intro c run
    obtain ⟨b, ends⟩ := run.exists_endsLast
    cases left.ahead ends.member ends.starts ends.ends
  | cons c above ih =>
    have subset' : ∀ d ∈ above, d ∈ comments := fun d member =>
      subset d (List.mem_cons_of_mem _ member)
    rw [docStartFrom]
    split
    · rename_i late
      exact ih start ordered.tail subset' (left.skip (.inl late))
    · rename_i early
      split
      · rename_i ends
        have last := endsLast_of_head ordered (subset c List.mem_cons_self) left
          (Nat.lt_of_not_le early) ends
        obtain ⟨lowest, reached⟩ := ih c.offset ordered.tail subset' (left.climb ends)
        simp only [last.inRun_iff ordered left]
        constructor
        · rintro x (rfl | run)
          · exact docStartFrom_le (fun d member => Nat.le_of_lt (ordered.offset_lt member))
              ordered.tail
          · exact lowest x run
        · rcases reached with stays | ⟨x, run, top⟩
          · exact .inr ⟨c, .inl rfl, stays⟩
          · exact .inr ⟨x, .inr run, top⟩
      · rename_i differs
        split
        · rename_i lower
          refine ⟨?_, .inl rfl⟩
          intro x run
          obtain ⟨b, ends⟩ := run.exists_endsLast
          have same := ends.ends
          -- Comments further up end no later than `c`, which ends too early.
          rcases List.mem_cons.1 (left.ahead ends.member ends.starts ends.ends) with rfl | later
          · omega
          · have := ((List.pairwise_cons.1 ordered.2).1 b later).2
            have := line_le_lastLine c
            omega
        · rename_i higher
          exact ih start ordered.tail subset' (left.skip (.inr (by omega)))

/-! ## The run in a scanned text -/

variable {normalize : Bool} {content : Bytes}

theorem descending_comments (normalize : Bool) (content : Bytes) :
    Descending (Scan.ofText normalize content).comments.reverse := by
  constructor
  · intro c member
    exact Scan.offset_lt_ending (List.mem_reverse.1 member)
  · rw [List.pairwise_reverse]
    exact (Scan.comments_pairwise normalize content).imp_of_mem fun first second follows =>
      ⟨follows, Scan.lastLine_le_line first second follows⟩

theorem docStart_run (normalize : Bool) (content : Bytes) (d : Decl) :
    (∀ c, Documents (Scan.ofText normalize content).comments d c →
      docStart (Scan.ofText normalize content).comments d.line d.lineStart ≤ c.offset) ∧
    (docStart (Scan.ofText normalize content).comments d.line d.lineStart = d.lineStart ∨
      ∃ c, Documents (Scan.ofText normalize content).comments d c ∧
        docStart (Scan.ofText normalize content).comments d.line d.lineStart = c.offset) := by
  refine docStartFrom_run d.lineStart (descending_comments normalize content) ?_ ?_
  · intro c member
    exact List.mem_reverse.1 member
  · intro c member absent
    exact absurd (List.mem_reverse.2 member) absent

theorem docStart_le (normalize : Bool) (content : Bytes) (d : Decl) :
    docStart (Scan.ofText normalize content).comments d.line d.lineStart ≤ d.lineStart := by
  obtain ⟨-, stays | ⟨c, run, top⟩⟩ := docStart_run normalize content d
  · exact Nat.le_of_eq stays
  · rw [top]
    exact Nat.le_of_lt run.starts

/-- The documentation of a declaration starts before an offset above its line when a comment of its
run does. -/
theorem docStart_lt_iff {d : Decl} {n : Nat} (above : n ≤ d.lineStart) :
    docStart (Scan.ofText normalize content).comments d.line d.lineStart < n ↔
      ∃ c, Documents (Scan.ofText normalize content).comments d c ∧ c.offset < n := by
  obtain ⟨lowest, reached⟩ := docStart_run normalize content d
  constructor
  · intro early
    rcases reached with stays | ⟨c, run, top⟩
    · omega
    · exact ⟨c, run, by omega⟩
  · rintro ⟨c, run, early⟩
    exact Nat.lt_of_le_of_lt (lowest c run) early

/-- **A run passes a declaration only on its line.**  The induction is on the run: as long as it stays
below the declaration it comes to no line above it, and the first comment that is not below stands on
the line, since a comment that starts higher up ends higher up. -/
theorem InRun.exists_onLineOf {d : Decl} {before' text after : Bytes}
    (place : d.StandsOn content (Scan.ofText normalize content).comments before' text after)
    (inside : d.lineEnd ≤ content.length)
    (run : InRun (Scan.ofText normalize content).comments before line c)
    (below : d.line ≤ line) (crosses : c.offset < d.lineEnd) :
    ∃ b, InRun (Scan.ofText normalize content).comments before line b ∧ d.OnLineOf b := by
  have onLine : ∀ {line : Int} {b : Comment}, d.line ≤ line → b.offset < d.lineEnd →
      EndsLast (Scan.ofText normalize content).comments before line b → d.OnLineOf b := by
    intro line b below crosses ends
    refine ⟨?_, crosses⟩
    by_contra above
    have higher := lastLine_lt_line ends.member place inside (Nat.lt_of_not_le above)
    have same := ends.ends
    omega
  induction run with
  | @lowest line c ends => exact ⟨c, .lowest ends, onLine below crosses ends⟩
  | @further line b c ends rest ih =>
    by_cases early : b.offset < d.lineEnd
    · exact ⟨b, .lowest ends, onLine below early ends⟩
    · have under : (d.line : Int) ≤ b.line - 1 := by
        obtain ⟨_, _, _, stands⟩ := Scan.exists_standsAt ends.member
        have counted := place.lt_count_take (Nat.le_of_not_lt early) inside
        rw [stands.line_eq]
        omega
      obtain ⟨x, run, found⟩ := ih under crosses
      exact ⟨x, .further ends run, found⟩

/-! ## Regions -/

theorem lt_of_closingFrom {first depth stop : Nat} {braces : List Brace}
    (later : ∀ b ∈ braces, first ≤ b.offset) (found : closingFrom depth braces = some stop) :
    first < stop := by
  fun_induction closingFrom depth braces with
  | case1 => cases found
  | case2 depth offset rest ih =>
    exact ih (fun b member => later b (List.mem_cons_of_mem _ member)) found
  | case3 => cases found
  | case4 offset rest =>
    cases found
    exact Nat.lt_succ_of_le (later _ List.mem_cons_self)
  | case5 depth offset rest ih =>
    exact ih (fun b member => later b (List.mem_cons_of_mem _ member)) found

theorem lt_of_bodyEnd {braces : List Brace} {first limit stop : Nat}
    (found : bodyEnd braces first limit = some stop) : first < stop := by
  rw [bodyEnd] at found
  split at found
  · rename_i offset rest opens
    split at found
    · refine lt_of_closingFrom ?_ found
      intro b member
      have kept : b ∈ (braces.filter fun b => first ≤ b.offset).dropWhile fun b =>
          b.kind == .closing && b.offset < limit := by
        rw [opens]
        exact List.mem_cons_of_mem _ member
      have filtered := (List.mem_filter.1 ((List.dropWhile_sublist _).subset kept)).2
      exact of_decide_eq_true filtered
    · cases found
  · cases found

/-- A region reaches into the line of its declaration. -/
theorem lineStart_lt_stop {d : Decl} {matchers : List LineMatcher} {comments : List Comment}
    (found : d ∈ find matchers content comments) (scan : Scan) (next : Option Decl) :
    d.lineStart < (d.region scan next).stop := by
  simp only [region]
  cases body : bodyEnd scan.braces d.lineStart
      (next.elim d.headEnd fun n => min d.headEnd n.lineStart) with
  | none =>
    obtain ⟨_, _, _, place⟩ := exists_standsOn found
    have := place.lineStart
    have := place.lineEnd
    rw [Option.getD_none]
    omega
  | some stop => exact lt_of_bodyEnd body

/-- **When a region keeps clear of an earlier declaration.**  The region of a declaration starts after
the line of an earlier one, and holds no comment that starts before the end of that line, exactly when
none of the comments that document the declaration stands on that line.  In a text whose offsets have
32 bits the declarations are those of the program. -/
theorem region_clear_iff (normalize : Bool) (content : Bytes) (matchers : List LineMatcher)
    (next : Option Decl) (d₁ d₂ : Decl)
    (first : d₁ ∈ find matchers content (Scan.ofText normalize content).comments)
    (second : d₂ ∈ find matchers content (Scan.ofText normalize content).comments)
    (earlier : d₁.line < d₂.line) :
    (d₁.lineEnd ≤ (d₂.region (Scan.ofText normalize content) next).start ↔
      ∀ c, Documents (Scan.ofText normalize content).comments d₂ c → ¬ d₁.OnLineOf c) ∧
    ((∀ c ∈ (Scan.ofText normalize content).comments, c.offset < d₁.lineEnd →
        (d₂.region (Scan.ofText normalize content) next).holds c.offset = false) ↔
      ∀ c, Documents (Scan.ofText normalize content).comments d₂ c → ¬ d₁.OnLineOf c) ∧
    WordDecl.Unwrapped matchers content (Scan.ofText normalize content).comments := by
  obtain ⟨_, _, _, place₁⟩ := exists_standsOn first
  obtain ⟨_, _, _, place₂⟩ := exists_standsOn second
  have order := place₁.lineEnd_le_lineStart place₂ earlier
  have inside : d₁.lineEnd ≤ content.length := Nat.le_trans order place₂.lineStart_le
  obtain ⟨lowest, -⟩ := docStart_run normalize content d₂
  have clear : d₁.lineEnd ≤ (d₂.region (Scan.ofText normalize content) next).start ↔
      ∀ c, Documents (Scan.ofText normalize content).comments d₂ c → ¬ d₁.OnLineOf c := by
    rw [← Nat.not_lt]
    constructor
    · intro starts c run onLine
      exact starts ((docStart_lt_iff order).2 ⟨c, run, onLine.2⟩)
    · intro none starts
      obtain ⟨c, run, crosses⟩ := (docStart_lt_iff order).1 starts
      obtain ⟨b, run', onLine⟩ := run.exists_onLineOf place₁ inside (by omega) crosses
      exact none b run' onLine
  refine ⟨clear, ?_, WordDecl.counts_find⟩
  constructor
  · intro unheld c run onLine
    have reach := lineStart_lt_stop second (Scan.ofText normalize content) next
    have held := unheld c run.member onLine.2
    have starts : (d₂.region (Scan.ofText normalize content) next).start ≤ c.offset := lowest c run
    have ends := onLine.2
    simp only [Region.holds, Bool.and_eq_false_iff, decide_eq_false_iff_not] at held
    omega
  · intro none c _ early
    have starts := clear.2 none
    simp only [Region.holds, Bool.and_eq_false_iff, decide_eq_false_iff_not]
    omega

/-- A function in the body of another, with a comment on the line of the outer one. -/
def nested : Bytes :=
  utf8 "// doc\nfn outer() \x7b // opens\n  fn inner() \x7b\x7d\n\x7d\n"

/-- Recognises `fn` and a name, after blanks. -/
def fnLine : LineMatcher := fun text =>
  (Bytes.after? (utf8 "fn ") (text.drop (indent text))).map fun rest =>
    (indent text + 3, rest.takeWhile Bytes.isLetter)

/-- The outer function of `nested`. -/
def nestedOuter : Decl := ⟨utf8 "outer", 10, 2, 7, 29, 45⟩

/-- The inner function of `nested`. -/
def nestedInner : Decl := ⟨utf8 "inner", 34, 3, 29, 45, 47⟩

theorem find_nested :
    find [fnLine] nested (Scan.ofText false nested).comments = [nestedOuter, nestedInner] := by
  decide +kernel

/-- The comment beside the outer function documents the inner one, and with it what stands above the
outer one. -/
theorem nested_region_crosses :
    find [fnLine] nested (Scan.ofText false nested).comments = [nestedOuter, nestedInner] ∧
    nestedOuter.line < nestedInner.line ∧
    (nestedInner.region (Scan.ofText false nested) none).start = 0 ∧
    ∃ c, Documents (Scan.ofText false nested).comments nestedInner c ∧ nestedOuter.OnLineOf c := by
  have start : (nestedInner.region (Scan.ofText false nested) none).start = 0 := by decide +kernel
  refine ⟨find_nested, by decide, start, ?_⟩
  have outer : nestedOuter ∈ find [fnLine] nested (Scan.ofText false nested).comments := by
    rw [find_nested]
    exact List.mem_cons_self
  have inner : nestedInner ∈ find [fnLine] nested (Scan.ofText false nested).comments := by
    rw [find_nested]
    exact List.mem_cons_of_mem _ List.mem_cons_self
  by_contra absent
  have clear := (region_clear_iff false nested [fnLine] none nestedOuter nestedInner outer inner
    (by decide)).1.2 fun c run onLine => absent ⟨c, run, onLine⟩
  rw [start] at clear
  cases clear

end Decl

end Marginalia
