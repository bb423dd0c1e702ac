import Marginalia.Owner.Resolver
import Marginalia.Proofs.Text.Normal
import Mathlib.Data.List.Forall2

/-!
# Normal form moves nothing

A scan puts the texts of comments into composed normal form if it is asked to.
Everything else that it says about a comment refers to the text as it is, so it is
the same either way (`ofText_normalized`).

For owners this takes an argument.  The documentation of a declaration is found by
the lines on which comments end, and those are counted in the text of the comment,
which may have been rewritten.  Normal form keeps the number of newlines, so a
comment ends on the same line in either form (`lastLine_composed`).  Then the walk up
from a declaration meets the same lines, its regions are the same
(`regions_composed`), and they give the comments the same owners
(`Resolver.resolve_normalized`).
-/

namespace Marginalia

set_option autoImplicit false

/-! ## A comment in normal form -/

namespace Comment

/-- The comment with its texts in composed normal form. -/
def composed (c : Comment) : Comment :=
  { c with text := c.text.compose, fullText := c.fullText.compose }

@[simp] theorem offset_composed (c : Comment) : c.composed.offset = c.offset := rfl

@[simp] theorem ending_composed (c : Comment) : c.composed.ending = c.ending := rfl

@[simp] theorem line_composed (c : Comment) : c.composed.line = c.line := rfl

@[simp] theorem span_composed (file : Nat) (c : Comment) : c.composed.span file = c.span file := rfl

/-- **A comment ends on the same line**, because normal form keeps the newlines in it. -/
@[simp] theorem lastLine_composed (c : Comment) : Decl.lastLine c.composed = Decl.lastLine c := by
  have newlines : c.fullText.compose.count 10 = c.fullText.count 10 :=
    Bytes.count_newline_compose c.fullText
  rw [Decl.lastLine, Decl.lastLine, line_composed, composed, newlines]

/-- The comment `normal` is `plain` with its texts in normal form, at the same place and with the same
owner. -/
structure IsNormalFormOf (normal plain : Comment) : Prop where
  text : normal.text = plain.text.compose
  fullText : normal.fullText = plain.fullText.compose
  kind : normal.kind = plain.kind
  start : normal.start = plain.start
  stop : normal.stop = plain.stop
  line : normal.line = plain.line
  column : normal.column = plain.column
  owner : normal.owner = plain.owner

theorem isNormalFormOf_composed (c : Comment) : c.composed.IsNormalFormOf c :=
  ⟨rfl, rfl, rfl, rfl, rfl, rfl, rfl, rfl⟩

end Comment

/-! ## A scan in normal form -/

namespace Scan

/-- The scan with its comments in normal form. -/
def composed (scan : Scan) : Scan := { scan with comments := scan.comments.map Comment.composed }

/-- **What a scan finds** does not depend on whether it normalises. -/
theorem ofText_normalized (content : Bytes) : ofText true content = (ofText false content).composed := by
  have one : ∀ place, comment? Bytes.compose (lineIndex content) place
      = (comment? id (lineIndex content) place).map Comment.composed := by
    rintro ⟨offset, lexeme⟩
    rw [comment?, comment?, Option.map_map]
    rfl
  have comments : (ofText true content).comments
      = (ofText false content).comments.map Comment.composed := by
    refine Eq.trans ?_ (List.map_filterMap ..).symm
    exact List.filterMap_congr fun place _ => one place
  rw [composed, ← comments]
  rfl

end Scan

/-! ## The regions of declarations -/

namespace Decl

variable (matchers : List LineMatcher) (comments : List Comment) (scan : Scan)

theorem insideComment_composed (offset : Nat) :
    insideComment (comments.map Comment.composed) offset = insideComment comments offset := by
  rw [insideComment, List.takeWhile_map, List.any_map]
  rfl

theorem onLine_composed (line start : Nat) (text : Bytes) (next : Option Bytes) :
    onLine matchers (comments.map Comment.composed) line start text next
      = onLine matchers comments line start text next := by
  rw [onLine, insideComment_composed, onLine]

theorem onLines_composed (line start : Nat) (texts : List Bytes) :
    onLines matchers (comments.map Comment.composed) line start texts
      = onLines matchers comments line start texts := by
  induction texts generalizing line start with
  | nil => rfl
  | cons text rest ih => rw [onLines, onLine_composed, ih, onLines]

theorem find_composed (content : Bytes) :
    find matchers content (comments.map Comment.composed) = find matchers content comments :=
  onLines_composed matchers comments 1 0 _

/-- The walk up takes the same way.  The induction is on the comments above, and every one of its
decisions is about an offset or a line. -/
theorem docStartFrom_composed (before start : Nat) (expect : Int) (above : List Comment) :
    docStartFrom before start expect (above.map Comment.composed)
      = docStartFrom before start expect above := by
  induction above generalizing start expect with
  | nil => rfl
  | cons c above ih =>
    rw [List.map_cons, docStartFrom, docStartFrom]
    simp only [Comment.offset_composed, Comment.line_composed, Comment.lastLine_composed, ih]

theorem docStart_composed (line lineStart : Nat) :
    docStart (comments.map Comment.composed) line lineStart = docStart comments line lineStart := by
  rw [docStart, ← List.map_reverse, docStartFrom_composed, docStart]

theorem region_composed (d : Decl) (next : Option Decl) :
    d.region scan.composed next = d.region scan next := by
  simp only [region, Scan.composed, docStart_composed]

/-- **Declarations have the same regions.** -/
theorem regions_composed (ds : List Decl) : regions scan.composed ds = regions scan ds := by
  induction ds with
  | nil => rfl
  | cons d rest ih => rw [regions, region_composed, ih, regions]

end Decl

theorem Scan.regionsByLine_composed (scan : Scan) (matchers : List LineMatcher) (content : Bytes) :
    scan.composed.regionsByLine matchers content = scan.regionsByLine matchers content := by
  have found : Decl.find matchers content scan.composed.comments
      = Decl.find matchers content scan.comments :=
    Decl.find_composed matchers scan.comments content
  rw [regionsByLine, Decl.regions_composed, found, regionsByLine]

/-! ## Owners -/

/-- Regions give a comment and its normal form the same owner. -/
theorem Region.assign_composed (rs : List Region) (comments : List Comment) :
    assign rs (comments.map Comment.composed) = (assign rs comments).map Comment.composed := by
  rw [assign, assign, List.map_map, List.map_map]
  refine List.map_congr_left fun c _ => ?_
  simp only [Function.comp_apply, Comment.offset_composed]
  split <;> rfl

theorem Scan.owned_composed (scan : Scan) (rs : List Region) :
    scan.composed.owned rs = (scan.owned rs).composed :=
  congrArg (fun comments => { scan with comments }) (Region.assign_composed rs scan.comments)

namespace Resolver

/-- Finding owners and putting texts into normal form can change places. -/
theorem resolve_composed (resolver : Resolver) (content : Bytes) (scan : Scan) :
    resolver.resolve content scan.composed
      = ((resolver.resolve content scan).1.composed, (resolver.resolve content scan).2) := by
  cases resolver with
  | nobody => rfl
  | pattern matchers => simp only [resolve, Scan.regionsByLine_composed, Scan.owned_composed]
  | go matchers =>
    simp only [resolve]
    cases Outline.ofText? content with
    | some decls => simp only [Scan.owned_composed]
    | none => simp only [Scan.regionsByLine_composed, Scan.owned_composed]

/-- **Normal form moves nothing.**  A text is scanned and the owners of its comments are found, by
patterns or in any other way, once with normalisation and once without.  There are as many comments
either way.  Each has its texts in normal form in the one case, and the same kind, offsets, line,
column, span and owner in both; braces and diagnostics are the same, too. -/
theorem resolve_normalized (resolver : Resolver) (content : Bytes) :
    let normal := resolver.resolve content (Scan.ofText true content)
    let plain := resolver.resolve content (Scan.ofText false content)
    List.Forall₂ Comment.IsNormalFormOf normal.1.comments plain.1.comments ∧
    (∀ file, normal.1.comments.map (Comment.span file) = plain.1.comments.map (Comment.span file)) ∧
    normal.1.braces = plain.1.braces ∧
    normal.1.diagnostics = plain.1.diagnostics ∧
    normal.2 = plain.2 := by
  intro normal plain
  have same : normal = (plain.1.composed, plain.2) := by
    rw [← resolve_composed, ← Scan.ofText_normalized]
  have comments : normal.1.comments = plain.1.comments.map Comment.composed := by
    rw [same]
    rfl
  refine ⟨?_, fun file => ?_, by rw [same]; rfl, by rw [same]; rfl, by rw [same]⟩
  · rw [comments, List.forall₂_map_left_iff]
    exact List.forall₂_same.2 fun c _ => c.isNormalFormOf_composed
  · rw [comments, List.map_map]
    rfl

end Resolver

end Marginalia
