import Marginalia.Notes.Fold
import Mathlib.Data.List.Induction

/-!
# The rules of the notes

Notes are made in one pass over the comments, with one accumulator.  This module
says what the pass comes to without mentioning it: one rule for each part of the
notes, each of which looks at the comments alone.

The description is that of the first comment that has one.  Examples and
tech-debt notes are those of each comment, in order.  Every comment may have one
fault, and what is reported are the faults, in order; a fault depends on the
comment, on those before it, and in one case on all comments together.

The pass keeps the rules from one comment to the next (`step_byRules`), so it
ends with them (`ofComments_rules`).
-/

namespace Marginalia

set_option autoImplicit false

/-! ## What each comment contributes -/

namespace Comment

/-- The marker of a comment. -/
def marker (c : Comment) : Marker := Marker.ofText c.fullText

/-- The description that a comment gives. -/
def description? (c : Comment) : Option Bytes :=
  match c.marker with
  | .description value => some value
  | _ => none

/-- The examples that a comment gives, each with its line and owner. -/
def examples (c : Comment) : List Example :=
  match c.marker with
  | .example_ parts => parts.map fun e =>
      { code := e.code, expected := e.expected, line := c.line, raw := e.raw, owner := c.owner }
  | _ => []

/-- The tech-debt note that a comment gives. -/
def debt? (c : Comment) : Option TechDebt :=
  match c.marker with
  | .techDebt reason =>
      some { line := c.line, reason := reason.trim, raw := reason.trim, owner := c.owner }
  | _ => none

end Comment

/-- What can be wrong with a comment. -/
inductive Fault where
  /-- it has no owner, and several are possible -/
  | ambiguous
  /-- it describes what is described already -/
  | extraDescription
  /-- it promises examples and gives none -/
  | emptyExamples
  /-- it names a tech debt and gives no reason -/
  | emptyReason
  deriving DecidableEq, Repr

namespace Fault

/-- The code that a fault is reported with. -/
def code : Fault → Code
  | .ambiguous => .ambiguous
  | .extraDescription => .extraDescription
  | .emptyExamples => .emptyExamples
  | .emptyReason => .emptyReason

/-- The message and the suggestion that a fault is reported with. -/
def wording : Fault → Bytes × Bytes
  | .ambiguous => Finding.ambiguous
  | .extraDescription => Finding.extraDescription
  | .emptyExamples => Finding.emptyExamples
  | .emptyReason => Finding.emptyReason

/-- What is reported about a comment with a fault: the severity and the category are those of the
code, the position and the owner those of the comment. -/
def reportedOn (c : Comment) (f : Fault) : Diagnostic where
  code := f.code
  category := f.code.category
  message := f.wording.1
  line := c.line
  column := some c.column
  owner := c.owner
  severity := f.code.severity
  suggestion := some f.wording.2

/-- No fault is an error. -/
theorem severity_code (f : Fault) : f.code.severity = .info ∨ f.code.severity = .warn := by
  cases f with
  | ambiguous => exact .inl (by decide)
  | extraDescription => exact .inr (by decide)
  | emptyExamples => exact .inl (by decide)
  | emptyReason => exact .inr (by decide)

end Fault

/-- The fault of a comment among `all` comments, after the `earlier` ones. -/
def Comment.fault? (all earlier : List Comment) (c : Comment) : Option Fault :=
  match c.marker with
  | .plain => if c.owner = none ∧ couldBeAmbiguous all = true then some .ambiguous else none
  | .description _ =>
      if ∃ d ∈ earlier, d.description?.isSome then some .extraDescription else none
  | .example_ parts => if parts = [] then some .emptyExamples else none
  | .techDebt reason => if reason.trim = [] then some .emptyReason else none

/-- Each comment, together with those before it. -/
def withEarlier (earlier : List Comment) : List Comment → List (List Comment × Comment)
  | [] => []
  | c :: cs => (earlier, c) :: withEarlier (earlier ++ [c]) cs

theorem withEarlier_concat (earlier cs : List Comment) (c : Comment) :
    withEarlier earlier (cs ++ [c]) = withEarlier earlier cs ++ [(earlier ++ cs, c)] := by
  induction cs generalizing earlier with
  | nil => simp [withEarlier]
  | cons d cs ih =>
    rw [List.cons_append, withEarlier, withEarlier, ih]
    simp

theorem map_snd_withEarlier (earlier cs : List Comment) :
    (withEarlier earlier cs).map Prod.snd = cs := by
  induction cs generalizing earlier with
  | nil => rfl
  | cons c cs ih => rw [withEarlier, List.map_cons, ih]

namespace Notes

/-- The notes that the rules give to some of all comments. -/
def byRules (all cs : List Comment) : Notes where
  description := cs.findSome? Comment.description?
  examples := cs.flatMap Comment.examples
  debts := cs.filterMap Comment.debt?
  diagnostics := (withEarlier [] cs).filterMap fun (earlier, c) =>
    (c.fault? all earlier).map (Fault.reportedOn c)

/-! ## The pass keeps the rules -/

/-- What one comment more adds to the notes that the rules give. -/
theorem byRules_concat (all cs : List Comment) (c : Comment) :
    byRules all (cs ++ [c]) =
      { description := (byRules all cs).description.or c.description?
        examples := (byRules all cs).examples ++ c.examples
        debts := (byRules all cs).debts ++ c.debt?.toList
        diagnostics := (byRules all cs).diagnostics
          ++ ((c.fault? all cs).map (Fault.reportedOn c)).toList } := by
  have last : ∀ {α β : Type} (f : α → Option β) (x : α), [x].filterMap f = (f x).toList := by
    intro α β f x
    cases h : f x <;> simp [h]
  simp only [byRules, withEarlier_concat, List.filterMap_append, List.flatMap_append, last,
    List.nil_append, List.flatMap_singleton, List.findSome?_append]
  congr
  cases h : c.description? <;> simp [h]

theorem isSome_description_byRules (all cs : List Comment) :
    (byRules all cs).description.isSome = true ↔ ∃ d ∈ cs, d.description?.isSome := by
  rw [byRules, List.isSome_findSome?, List.any_eq_true]

theorem report_fault (n : Notes) (c : Comment) (f : Fault) :
    n.report (Finding.about c f.code f.wording)
      = { n with diagnostics := n.diagnostics ++ [Fault.reportedOn c f] } :=
  rfl

/-- **One comment more**: a step from the notes by the rules is again by the rules. -/
theorem step_byRules (all cs : List Comment) (c : Comment) :
    step (couldBeAmbiguous all) (byRules all cs) c = byRules all (cs ++ [c]) := by
  have described := isSome_description_byRules all cs
  rw [byRules_concat]
  generalize byRules all cs = n at described
  unfold step
  cases marker : Marker.ofText c.fullText with
  | plain =>
    have fault : c.fault? all cs
        = if c.owner = none ∧ couldBeAmbiguous all = true then some .ambiguous else none := by
      rw [Comment.fault?, Comment.marker, marker]
    have orphaned : c.orphan = true ↔ c.owner = none := by simp [Comment.orphan]
    simp only [Comment.description?, Comment.examples, Comment.debt?, Comment.marker, marker, fault,
      Bool.and_eq_true, orphaned]
    split
    · refine (report_fault n c .ambiguous).trans ?_
      simp
    · simp
  | description value =>
    have fault : c.fault? all cs
        = if ∃ d ∈ cs, d.description?.isSome then some .extraDescription else none := by
      rw [Comment.fault?, Comment.marker, marker]
    have given : c.description? = some value := by
      rw [Comment.description?, Comment.marker, marker]
    simp only [Comment.examples, Comment.debt?, Comment.marker, marker, fault, given, ← described]
    cases first : n.description with
    | none => simp
    | some earlier =>
      refine (report_fault n c .extraDescription).trans ?_
      simp [first]
  | example_ parts =>
    have fault : c.fault? all cs = if parts = [] then some .emptyExamples else none := by
      rw [Comment.fault?, Comment.marker, marker]
    simp only [Comment.description?, Comment.examples, Comment.debt?, Comment.marker, marker, fault,
      List.isEmpty_iff]
    split
    · refine (report_fault _ c .emptyExamples).trans ?_
      simp
    · simp
  | techDebt reason =>
    have fault : c.fault? all cs = if reason.trim = [] then some .emptyReason else none := by
      rw [Comment.fault?, Comment.marker, marker]
    simp only [Comment.description?, Comment.examples, Comment.debt?, Comment.marker, marker, fault,
      List.isEmpty_iff]
    split
    · refine (report_fault _ c .emptyReason).trans ?_
      simp
    · simp

/-- The whole pass ends with the notes that the rules give. -/
theorem foldl_step_eq_byRules (all cs : List Comment) :
    cs.foldl (step (couldBeAmbiguous all)) {} = byRules all cs := by
  induction cs using List.reverseRecOn with
  | nil => rfl
  | append_singleton cs c ih =>
    rw [List.foldl_append, ih, List.foldl_cons, List.foldl_nil, step_byRules]

theorem ofComments_eq_byRules (cs : List Comment) : ofComments cs = byRules cs cs :=
  foldl_step_eq_byRules cs cs

/-- What is reported is a fault of one of the comments. -/
theorem exists_reportedOn {cs : List Comment} {d : Diagnostic}
    (member : d ∈ (ofComments cs).diagnostics) : ∃ c ∈ cs, ∃ f : Fault, d = f.reportedOn c := by
  rw [ofComments_eq_byRules, byRules] at member
  obtain ⟨⟨earlier, c⟩, among, reported⟩ := List.mem_filterMap.1 member
  obtain ⟨f, -, rfl⟩ := Option.map_eq_some_iff.1 reported
  have isOne : c ∈ (withEarlier [] cs).map Prod.snd := List.mem_map_of_mem among
  rw [map_snd_withEarlier] at isOne
  exact ⟨c, isOne, f, rfl⟩

/-- A comment has one fault at most. -/
theorem length_diagnostics_le (cs : List Comment) : (ofComments cs).diagnostics.length ≤ cs.length := by
  have each := congrArg List.length (map_snd_withEarlier [] cs)
  rw [List.length_map] at each
  rw [ofComments_eq_byRules, byRules, ← each]
  exact List.length_filterMap_le _ _

/-- **The notes of comments are those that the rules give.** -/
theorem ofComments_rules (cs : List Comment) :
    (ofComments cs).description = cs.findSome? Comment.description? ∧
    (ofComments cs).examples = cs.flatMap Comment.examples ∧
    (ofComments cs).debts = cs.filterMap Comment.debt? ∧
    (ofComments cs).diagnostics = (withEarlier [] cs).filterMap fun (earlier, c) =>
      (c.fault? cs earlier).map (Fault.reportedOn c) := by
  have byTheRules : ofComments cs = byRules cs cs := foldl_step_eq_byRules cs cs
  rw [byTheRules]
  exact ⟨rfl, rfl, rfl, rfl⟩

end Notes

end Marginalia
