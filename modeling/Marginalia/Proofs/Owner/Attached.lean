import Marginalia.Proofs.Owner.DocRun
import Marginalia.Proofs.Text.Space
import Mathlib.Data.Finset.Max

/-!
# The comments attached to a declaration

A reader takes the comments above a declaration for its documentation when nothing but
white space without an empty line is between them, and the lowest of them ends on the
line above the declaration: these are the attached comments.

The walk that looks for the documentation sees lines only.  From a comment it goes on
to the last one that ends on the line above, and passes by those that end on the line
on which it starts.  Where none ends on the line above, it breaks off.  Attached
comments on lines of their own are all found that way (`attached_owned_iff`); when two
of them share a line, those further up may be lost.
-/

namespace Marginalia

set_option autoImplicit false

/-- Between the comment `b` and the comment `c` after it is only white space, and no empty line. -/
structure Comment.Adjoins (content : Bytes) (b c : Comment) : Prop where
  follows : b.ending ≤ c.offset
  blank : Bytes.Blank ((content.take c.offset).drop b.ending)
  close : ((content.take c.offset).drop b.ending).count Bytes.newline ≤ 1

namespace Scan

variable {normalize : Bool} {content : Bytes} {b c : Comment}

/-! ## Comments and the lines they share -/

/-- Of two comments one ends before the other starts. -/
theorem eq_or_follows (first : b ∈ (ofText normalize content).comments)
    (second : c ∈ (ofText normalize content).comments) :
    b = c ∨ b.ending ≤ c.offset ∨ c.ending ≤ b.offset := by
  have ordered := comments_pairwise normalize content
  have forward : (ofText normalize content).comments.Pairwise fun x y =>
      x = y ∨ x.ending ≤ y.offset ∨ y.ending ≤ x.offset :=
    ordered.imp fun before => .inr (.inl before)
  have backward : (ofText normalize content).comments.Pairwise fun y x =>
      x = y ∨ x.ending ≤ y.offset ∨ y.ending ≤ x.offset :=
    ordered.imp fun before => .inr (.inr before)
  exact forward.forall_of_forall_of_flip (fun _ _ => .inl rfl) backward first second

theorem eq_or_ending_le (first : b ∈ (ofText normalize content).comments)
    (second : c ∈ (ofText normalize content).comments) (starts : b.offset ≤ c.offset) :
    b = c ∨ b.ending ≤ c.offset := by
  have nonempty := offset_lt_ending second
  rcases eq_or_follows first second with same | before | after
  · exact .inl same
  · exact .inr before
  · omega

/-- What ends above the line of a comment stands before it. -/
theorem offset_lt_of_lastLine_lt (first : b ∈ (ofText normalize content).comments)
    (second : c ∈ (ofText normalize content).comments) (higher : Decl.lastLine b < c.line) :
    b.offset < c.offset := by
  have rises := Decl.line_le_lastLine b
  have nonempty := offset_lt_ending first
  rcases eq_or_follows first second with rfl | before | after
  · omega
  · omega
  · have later := lastLine_le_line second first after
    have := Decl.line_le_lastLine c
    omega

end Scan

namespace Comment.Adjoins

variable {normalize : Bool} {content : Bytes} {b c x : Comment}

/-- No comment stands in the white space. -/
theorem le_offset (adjoins : b.Adjoins content c)
    (member : x ∈ (Scan.ofText normalize content).comments) (behind : b.ending ≤ x.offset) :
    c.offset ≤ x.offset := by
  by_contra between
  have slash := Scan.getElem?_offset member
  have inside : ((content.take c.offset).drop b.ending)[x.offset - b.ending]? = some Bytes.slash := by
    rw [List.getElem?_drop, List.getElem?_take_of_lt (by omega), Nat.add_sub_cancel' behind, slash]
  exact Bytes.slash_notMem_of_blank adjoins.blank (List.mem_of_getElem? inside)

/-- Of comments side by side, the second starts at the latest on the line below the first. -/
theorem line_le (adjoins : b.Adjoins content c) (first : b ∈ (Scan.ofText normalize content).comments)
    (second : c ∈ (Scan.ofText normalize content).comments) : c.line ≤ Decl.lastLine b + 1 := by
  obtain ⟨_, _, _, stands⟩ := Scan.exists_standsAt first
  obtain ⟨_, _, _, stands'⟩ := Scan.exists_standsAt second
  have split : content.take c.offset
      = content.take b.ending ++ (content.take c.offset).drop b.ending := by
    conv_lhs => rw [← List.take_append_drop b.ending (content.take c.offset)]
    rw [List.take_take, Nat.min_eq_left adjoins.follows]
  have close := adjoins.close
  rw [stands'.line_eq, stands.lastLine_eq, split, List.count_append]
  omega

end Comment.Adjoins

namespace Decl

/-- The comments directly above a declaration: the lowest ends on the line above it, and each of the
others adjoins the one below it. -/
inductive Attached (content : Bytes) (comments : List Comment) (d : Decl) : Comment → Prop
  | lowest {c : Comment} : c ∈ comments → c.offset < d.lineStart → lastLine c = d.line - 1 →
      Attached content comments d c
  | above {b c : Comment} : Attached content comments d c → b ∈ comments → b.Adjoins content c →
      Attached content comments d b

/-- The walk up from a declaration comes to the comment `b`, and no further. -/
def BreaksOff (comments : List Comment) (d : Decl) (b : Comment) : Prop :=
  Documents comments d b ∧ ∀ a ∈ comments, lastLine a ≠ b.line - 1

/-- The comment starts on a line on which an earlier one ends. -/
def SharesLine (comments : List Comment) (b : Comment) : Prop :=
  ∃ a ∈ comments, a.offset < b.offset ∧ lastLine a = b.line

variable {normalize : Bool} {content : Bytes} {comments : List Comment} {d : Decl}
  {before : Nat} {line : Int} {a b c x : Comment}

/-! ## Attached comments -/

namespace Attached

theorem member (attached : Attached content comments d c) : c ∈ comments := by
  cases attached with
  | lowest member _ _ => exact member
  | above _ member _ => exact member

theorem exists_lowest (attached : Attached content comments d c) :
    ∃ b ∈ comments, b.offset < d.lineStart ∧ lastLine b = d.line - 1 := by
  induction attached with
  | lowest member starts ends => exact ⟨_, member, starts, ends⟩
  | above _ _ _ ih => exact ih

theorem offset_lt (attached : Attached content (Scan.ofText normalize content).comments d c) :
    c.offset < d.lineStart := by
  induction attached with
  | lowest _ starts _ => exact starts
  | above _ member adjoins ih =>
    have nonempty := Scan.offset_lt_ending member
    have follows := adjoins.follows
    omega

/-- Every comment between an attached one and the declaration is attached. -/
theorem of_below (attached : Attached content (Scan.ofText normalize content).comments d c)
    (member : x ∈ (Scan.ofText normalize content).comments) (starts : x.offset < d.lineStart)
    (ends : lastLine x ≤ d.line - 1) (below : c.offset ≤ x.offset) :
    Attached content (Scan.ofText normalize content).comments d x := by
  induction attached with
  | @lowest c member' starts' ends' =>
    rcases Scan.eq_or_ending_le member' member below with rfl | follows
    · exact .lowest member' starts' ends'
    · have lower := Scan.lastLine_le_line member' member follows
      have := line_le_lastLine x
      exact .lowest member starts (by omega)
  | @above b c attached member' adjoins ih =>
    rcases Scan.eq_or_ending_le member' member below with rfl | follows
    · exact .above attached member' adjoins
    · exact ih (adjoins.le_offset member follows)

/-- Above a comment that has an attached one before it, another one ends on its line or on the line
above. -/
theorem exists_close (attached : Attached content (Scan.ofText normalize content).comments d c)
    (member : x ∈ (Scan.ofText normalize content).comments) (ends : lastLine x ≤ d.line - 1)
    (below : c.offset < x.offset) :
    ∃ a ∈ (Scan.ofText normalize content).comments, a.offset < x.offset ∧
      x.line ≤ lastLine a + 1 := by
  induction attached with
  | @lowest c member' _ ends' =>
    have := line_le_lastLine x
    exact ⟨c, member', below, by omega⟩
  | @above b c attached member' adjoins ih =>
    have follows : b.ending ≤ x.offset := by
      rcases Scan.eq_or_ending_le member' member (Nat.le_of_lt below) with rfl | follows
      · omega
      · exact follows
    rcases Scan.eq_or_ending_le attached.member member (adjoins.le_offset member follows) with
      rfl | further
    · exact ⟨b, member', below, adjoins.line_le member' member⟩
    · have nonempty := Scan.offset_lt_ending attached.member
      exact ih (by omega)

end Attached

/-! ## Where the walk breaks off -/

theorem exists_endsLast (member : c ∈ comments) (starts : c.offset < before)
    (ends : lastLine c = line) : ∃ b, EndsLast comments before line b := by
  obtain ⟨b, found, last⟩ := Finset.exists_max_image
    (comments.toFinset.filter fun d => d.offset < before ∧ lastLine d = line) Comment.offset
    ⟨c, Finset.mem_filter.2 ⟨List.mem_toFinset.2 member, starts, ends⟩⟩
  obtain ⟨member', starts', ends'⟩ := Finset.mem_filter.1 found
  refine ⟨b, List.mem_toFinset.1 member', starts', ends', ?_⟩
  intro d inText early same
  exact last d (Finset.mem_filter.2 ⟨List.mem_toFinset.2 inText, early, same⟩)

theorem EndsLast.unique (first : EndsLast (Scan.ofText normalize content).comments before line b)
    (second : EndsLast (Scan.ofText normalize content).comments before line c) : b = c := by
  have le := second.last b first.member first.starts first.ends
  have ge := first.last c second.member second.starts second.ends
  have nonempty := Scan.offset_lt_ending first.member
  rcases Scan.eq_or_ending_le first.member second.member le with same | follows
  · exact same
  · omega

namespace InRun

theorem lastLine_le (run : InRun comments before line c) : lastLine c ≤ line := by
  induction run with
  | lowest ends => exact Int.le_of_eq ends.ends
  | @further line b c ends _ ih =>
    have same := ends.ends
    have := line_le_lastLine b
    omega

/-- A run goes on as long as a comment ends on the line above. -/
theorem extend (run : InRun comments before line b) (ends : EndsLast comments before (b.line - 1) c) :
    InRun comments before line c := by
  induction run with
  | lowest ends' => exact .further ends' (.lowest ends)
  | further ends' _ ih => exact .further ends' (ih ends)

/-- From a comment that is not the top of its run, the run goes on. -/
theorem exists_endsLast_above (run : InRun (Scan.ofText normalize content).comments before line b)
    (top : InRun (Scan.ofText normalize content).comments before line c) (lower : c.offset < b.offset) :
    ∃ a, EndsLast (Scan.ofText normalize content).comments before (b.line - 1) a := by
  induction run with
  | @lowest line b ends =>
    cases top with
    | lowest ends' =>
      rw [ends.unique ends'] at lower
      exact absurd lower (Nat.lt_irrefl _)
    | further ends' rest =>
      rw [ends.unique ends']
      exact rest.exists_endsLast
  | @further line x b ends rest ih =>
    cases top with
    | lowest ends' =>
      -- what comes after `c` in the run stands above it
      rw [ends.unique ends'] at rest
      have higher := rest.lastLine_le
      have early := Scan.offset_lt_of_lastLine_lt rest.member ends'.member (by omega)
      omega
    | further ends' rest' =>
      rw [← ends.unique ends'] at rest'
      exact ih rest' lower

end InRun

/-- **The walk up from a declaration reaches a comment above it unless it breaks off below.** -/
theorem docStart_le_iff (attached : Attached content (Scan.ofText normalize content).comments d c) :
    docStart (Scan.ofText normalize content).comments d.line d.lineStart ≤ c.offset ↔
      ∀ b, c.offset < b.offset → ¬ BreaksOff (Scan.ofText normalize content).comments d b := by
  obtain ⟨lowest, reached⟩ := docStart_run normalize content d
  constructor
  · intro reaches b below breaks
    obtain ⟨run, none⟩ := breaks
    rcases reached with stays | ⟨t, top, start⟩
    · have := attached.offset_lt
      omega
    · obtain ⟨a, ends⟩ := run.exists_endsLast_above top (by omega)
      exact none a ends.member ends.ends
  · intro unbroken
    by_contra missed
    rcases reached with stays | ⟨t, top, start⟩
    · obtain ⟨b, member, starts, ends⟩ := attached.exists_lowest
      obtain ⟨e, last⟩ := exists_endsLast member starts ends
      have := lowest e (.lowest last)
      have := last.starts
      omega
    · refine unbroken t (by omega) ⟨top, ?_⟩
      intro a member ends
      have early := Scan.offset_lt_of_lastLine_lt member top.member (by omega)
      obtain ⟨e, last⟩ := exists_endsLast member (Nat.lt_trans early top.starts) ends
      have beyond := lowest e (top.extend last)
      have higher := Scan.offset_lt_of_lastLine_lt last.member top.member
        (by have := last.ends; omega)
      omega

/-- Among attached comments, the walk breaks off only where two share a line. -/
theorem BreaksOff.sharesLine (breaks : BreaksOff (Scan.ofText normalize content).comments d b)
    (attached : Attached content (Scan.ofText normalize content).comments d c)
    (below : c.offset < b.offset) : SharesLine (Scan.ofText normalize content).comments b := by
  obtain ⟨run, none⟩ := breaks
  obtain ⟨a, member, early, close⟩ := attached.exists_close run.member run.lastLine_le below
  refine ⟨a, member, early, ?_⟩
  have nonempty := Scan.offset_lt_ending member
  rcases Scan.eq_or_ending_le member run.member (Nat.le_of_lt early) with rfl | follows
  · omega
  · have lower := Scan.lastLine_le_line member run.member follows
    have := none a member
    omega

/-- **When a declaration owns the comments directly above it.**  The region of a declaration holds an
attached comment exactly when the walk breaks off at none of the attached comments below it.  Where it
does break off below an attached comment, two comments share a line: attached comments which start on
lines of their own are owned, all of them.  In a text whose offsets have 32 bits the declarations are
those of the program. -/
theorem attached_owned_iff (normalize : Bool) (content : Bytes) (matchers : List LineMatcher)
    (next : Option Decl) (d : Decl) (c : Comment)
    (found : d ∈ find matchers content (Scan.ofText normalize content).comments)
    (attached : Attached content (Scan.ofText normalize content).comments d c) :
    ((d.region (Scan.ofText normalize content) next).holds c.offset = true ↔
      docStart (Scan.ofText normalize content).comments d.line d.lineStart ≤ c.offset) ∧
    (docStart (Scan.ofText normalize content).comments d.line d.lineStart ≤ c.offset ↔
      ∀ b, Attached content (Scan.ofText normalize content).comments d b → c.offset < b.offset →
        ¬ BreaksOff (Scan.ofText normalize content).comments d b) ∧
    ((∀ b, Attached content (Scan.ofText normalize content).comments d b → c.offset < b.offset →
        ¬ SharesLine (Scan.ofText normalize content).comments b) →
      docStart (Scan.ofText normalize content).comments d.line d.lineStart ≤ c.offset) ∧
    WordDecl.Unwrapped matchers content (Scan.ofText normalize content).comments := by
  have known : ∀ b, BreaksOff (Scan.ofText normalize content).comments d b → c.offset < b.offset →
      Attached content (Scan.ofText normalize content).comments d b := by
    intro b breaks below
    exact attached.of_below breaks.1.member breaks.1.starts breaks.1.lastLine_le
      (Nat.le_of_lt below)
  have reaches := docStart_le_iff attached
  refine ⟨?_, ?_, ?_, WordDecl.counts_find⟩
  · have stop := lineStart_lt_stop found (Scan.ofText normalize content) next
    have start := attached.offset_lt
    simp only [Region.holds, Bool.and_eq_true, decide_eq_true_iff]
    exact ⟨fun held => held.1, fun early => ⟨early, by omega⟩⟩
  · rw [reaches]
    constructor
    · intro unbroken b _ below
      exact unbroken b below
    · intro unbroken b below breaks
      exact unbroken b (known b breaks below) below breaks
  · intro apart
    rw [reaches]
    intro b below breaks
    exact apart b (known b breaks below) below (breaks.sharesLine attached below)

/-- A declaration below two comments on one line. -/
def shared : Bytes := utf8 "/* a */ // b\nfn f() \x7b\x7d\n"

/-- The declaration of `shared`. -/
def belowShared : Decl := ⟨utf8 "f", 16, 2, 13, 23, 24⟩

/-- The first comment of `shared`. -/
def sharedFirst : Comment := ⟨.block, utf8 " a ", utf8 "/* a */", 0, 7, 1, 1, none⟩

/-- The second comment of `shared`. -/
def sharedSecond : Comment := ⟨.line, utf8 " b", utf8 "// b", 8, 12, 1, 9, none⟩

/-- The first of the two is attached to the declaration, and not owned by it. -/
theorem shared_lost :
    belowShared ∈ find [fnLine] shared (Scan.ofText false shared).comments ∧
    Attached shared (Scan.ofText false shared).comments belowShared sharedFirst ∧
    (belowShared.region (Scan.ofText false shared) none).holds sharedFirst.offset = false := by
  have comments : (Scan.ofText false shared).comments = [sharedFirst, sharedSecond] := by
    decide +kernel
  have found : belowShared ∈ find [fnLine] shared (Scan.ofText false shared).comments := by
    rw [comments]
    decide +kernel
  have lowest : Attached shared (Scan.ofText false shared).comments belowShared sharedSecond := by
    rw [comments]
    exact .lowest (by decide) (by decide) (by decide)
  have attached : Attached shared (Scan.ofText false shared).comments belowShared sharedFirst := by
    refine .above lowest ?_ ⟨by decide, by decide +kernel, by decide +kernel⟩
    rw [comments]
    exact List.mem_cons_self
  refine ⟨found, attached, ?_⟩
  obtain ⟨holds, reaches, -⟩ :=
    attached_owned_iff false shared [fnLine] none belowShared sharedFirst found attached
  rw [Bool.eq_false_iff, Ne, holds, reaches]
  intro unbroken
  refine unbroken sharedSecond lowest (by decide) ⟨.lowest ?_, ?_⟩
  · rw [comments]
    exact ⟨by decide, by decide, by decide, by decide⟩
  · rw [comments]
    decide

end Decl

end Marginalia
