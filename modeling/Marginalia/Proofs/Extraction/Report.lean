import Marginalia.Extraction.Source
import Marginalia.Proofs.Notes.Rules

/-!
# What an extraction reports

An extraction scans a text, finds the owners of its comments and makes notes of
them.  What it then reports is a matter of choice: diagnostics that are merely
informative may be left out, warnings may count as errors, and only so many are
wanted.  The bag makes these choices one diagnostic at a time.

This module says what they come to for the whole list (`bag_eq_reported`), and
that they touch the bag alone: comments and notes are the same whatever is chosen
(`extractText_reports`).
-/

namespace Marginalia

set_option autoImplicit false

/-! ## A bag takes the first diagnostics -/

namespace Bag

/-- The first diagnostics of a list, as many as a limit allows; one that is not positive allows all. -/
def upTo (limit : Int) (ds : List Diagnostic) : List Diagnostic :=
  if limit ≤ 0 then ds else ds.take limit.toNat

@[simp] theorem limit_add (b : Bag) (d : Diagnostic) : (b.add d).2.limit = b.limit := by
  rw [add]
  split <;> rfl

/-- **One diagnostic more**: it comes last, if there is room. -/
theorem items_add (b : Bag) (d : Diagnostic) :
    (b.add d).2.items
      = b.items ++ if b.limit ≤ 0 ∨ b.items.length < b.limit.toNat then [d] else [] := by
  have room : b.full = true ↔ ¬ (b.limit ≤ 0 ∨ b.items.length < b.limit.toNat) := by
    simp only [full, limited, Bool.and_eq_true, decide_eq_true_eq]
    omega
  rw [add]
  split
  next full => rw [if_neg (room.1 full), List.append_nil]
  next open_ => rw [if_pos (not_not.1 fun none => open_ (room.2 none))]

/-- **Any number of diagnostics**: as many of the first as there is room for come last, in order. -/
theorem items_addAll (b : Bag) (ds : List Diagnostic) :
    (b.addAll ds).items
      = b.items ++ if b.limit ≤ 0 then ds else ds.take (b.limit.toNat - b.items.length) := by
  induction ds generalizing b with
  | nil => simp [addAll]
  | cons d ds ih =>
    have next : b.addAll (d :: ds) = (b.add d).2.addAll ds := rfl
    rw [next, ih, limit_add, items_add]
    by_cases unlimited : b.limit ≤ 0
    · simp [unlimited]
    · by_cases room : b.items.length < b.limit.toNat
      · have left : b.limit.toNat - b.items.length
            = b.limit.toNat - (b.items.length + 1) + 1 := by omega
        simp [unlimited, room, left]
      · have left : b.limit.toNat - b.items.length = 0 := by omega
        simp [unlimited, room, left]

theorem items_addAll_new (limit : Int) (ds : List Diagnostic) :
    ((new limit).addAll ds).items = upTo limit ds :=
  items_addAll (new limit) ds

end Bag

/-! ## The choices -/

namespace Options

/-- Is a diagnostic wanted at all? -/
def wants (o : Options) (d : Diagnostic) : Bool := !(o.ignoreInfo && d.severity = .info)

/-- How a diagnostic is counted. -/
def counted (o : Options) (d : Diagnostic) : Diagnostic :=
  if o.warningsAsErrors && d.severity = .warn then { d with severity := .error } else d

/-- What is reported of some diagnostics: those that are wanted, as they are counted, up to the
limit. -/
def reported (o : Options) (ds : List Diagnostic) : List Diagnostic :=
  Bag.upTo o.maxDiagnostics ((ds.filter o.wants).map o.counted)

theorem filterMap_apply (o : Options) (ds : List Diagnostic) :
    ds.filterMap o.apply = (ds.filter o.wants).map o.counted := by
  have choice : ∀ d, o.apply d = if o.wants d then some (o.counted d) else none := by
    intro d
    cases ignored : o.ignoreInfo && decide (d.severity = .info) with
    | true => rw [apply, if_pos ignored, if_neg (by simp [wants, ignored])]
    | false =>
      rw [apply, if_neg (by simp [ignored]), counted]
      split <;> simp [wants, ignored]
  induction ds with
  | nil => rfl
  | cons d ds ih =>
    rw [List.filterMap_cons, choice, List.filter_cons, ih]
    cases o.wants d with
    | true => rfl
    | false => rfl

/-- The bag of a file holds what is reported of the diagnostics of the scan and of the notes. -/
theorem bag_eq_reported (o : Options) (scanned noted : List Diagnostic) :
    (o.bag scanned noted).items = o.reported (scanned ++ noted) := by
  rw [bag, filterMap_apply, Bag.items_addAll_new, reported]

end Options

/-! ## The parts of an extraction -/

/-- A comment without its owner. -/
def Comment.unowned (c : Comment) : Comment := { c with owner := none }

/-- Regions change nothing but owners. -/
theorem Region.map_unowned_assign (rs : List Region) (comments : List Comment) :
    (assign rs comments).map Comment.unowned = comments.map Comment.unowned := by
  rw [assign, List.map_map]
  refine List.map_congr_left fun c _ => ?_
  simp only [Function.comp_apply]
  split <;> rfl

/-- Finding owners changes nothing but owners, in whatever way it is done. -/
theorem Options.map_unowned_resolve [GoParser] (o : Options) (path content : Bytes) (scan : Scan) :
    (o.resolve path content scan).1.map Comment.unowned = scan.comments.map Comment.unowned := by
  rw [Options.resolve]
  cases Resolver.ofKind o.resolver path o.patterns with
  | error e => rfl
  | ok resolver =>
    cases resolver with
    | nobody => rfl
    | pattern matchers => exact Region.map_unowned_assign _ _
    | go matchers =>
      simp only [Resolver.resolve]
      cases Outline.ofText? content with
      | some decls => exact Region.map_unowned_assign _ _
      | none => exact Region.map_unowned_assign _ _

/-- A scan knows no owners. -/
theorem Scan.map_unowned_comments (normalize : Bool) (content : Bytes) :
    (Scan.ofText normalize content).comments.map Comment.unowned
      = (Scan.ofText normalize content).comments := by
  have unowned : ∀ shape index x,
      (comment? shape index x).map Comment.unowned = comment? shape index x := by
    rintro shape index ⟨offset, lexeme⟩
    rw [comment?, Option.map_map]
    rfl
  rw [Scan.ofText, List.map_filterMap]
  simp only [unowned]

/-- Notes report with the severity of the code. -/
theorem Notes.severity_of_mem {cs : List Comment} {d : Diagnostic}
    (member : d ∈ (Notes.ofComments cs).diagnostics) : d.severity = d.code.severity := by
  obtain ⟨c, -, f, rfl⟩ := Notes.exists_reportedOn member
  rfl

/-! ## The whole extraction -/

namespace Options

theorem comments_report (o : Options) (file : SourceFile) (cached : Bool) (timing : List Phase)
    (p : Payload) : (o.report file cached timing p).comments = p.comments :=
  rfl

theorem notes_report (o : Options) (file : SourceFile) (cached : Bool) (timing : List Phase)
    (p : Payload) : (o.report file cached timing p).notes = p.notes :=
  rfl

theorem items_report (o : Options) (file : SourceFile) (cached : Bool) (timing : List Phase)
    (p : Payload) : (o.report file cached timing p).bag.map Bag.items
      = some (o.reported (p.scanDiagnostics ++ p.notes.diagnostics)) := by
  rw [report, Option.map_some, bag_eq_reported]

/-- What is found out about a file, in terms of its comments with owners.  These are taken as they are:
unfolding how owners are found would try the patterns that are always there. -/
theorem exists_examine [GoParser] (o : Options) (file : SourceFile) :
    ∃ comments problem, o.resolve file.path file.content (Scan.ofText o.normalize file.content)
        = (comments, problem) ∧
      o.examine file =
        { path := file.path
          comments := comments
          notes := Notes.ofComments comments
          scanDiagnostics := (Scan.ofText o.normalize file.content).diagnostics
          resolverError := problem.getD [] } := by
  obtain ⟨⟨comments, problem⟩, resolved⟩ : ∃ found,
    o.resolve file.path file.content (Scan.ofText o.normalize file.content) = found := ⟨_, rfl⟩
  exact ⟨comments, problem, resolved, by rw [examine, resolved]⟩

/-- The notes about a file are made from its comments. -/
theorem notes_examine [GoParser] (o : Options) (file : SourceFile) :
    (o.examine file).notes = Notes.ofComments (o.examine file).comments := by
  obtain ⟨comments, problem, -, found⟩ := o.exists_examine file
  rw [found]

/-- The diagnostics of the scan do not depend on any option. -/
theorem scanDiagnostics_examine [GoParser] (o : Options) (file : SourceFile) :
    (o.examine file).scanDiagnostics = (Scan.ofText false file.content).diagnostics := by
  obtain ⟨comments, problem, -, found⟩ := o.exists_examine file
  rw [found]
  rfl

/-- Without their owners the comments are those of the scan. -/
theorem unowned_examine [GoParser] (o : Options) (file : SourceFile) :
    (o.examine file).comments.map Comment.unowned
      = (Scan.ofText o.normalize file.content).comments := by
  obtain ⟨comments, problem, resolved, found⟩ := o.exists_examine file
  have unowned := o.map_unowned_resolve file.path file.content (Scan.ofText o.normalize file.content)
  rw [resolved, Scan.map_unowned_comments] at unowned
  rw [found]
  exact unowned

/-- Without a cache the result is made from what is found out about the file. -/
theorem extractText_uncached [GoParser] (o : Options) (name content : Bytes) :
    ∃ outcome phases,
      o.extractText false none name content
        = .ok ((FileSet.addVirtual {} name content).2, outcome) ∧
      outcome.result
        = o.report ⟨0, Path.clean name, content, .virtual⟩ false phases
            (o.examine ⟨0, Path.clean name, content, .virtual⟩) :=
  ⟨_, _, rfl, rfl⟩

/-- Owners depend on the resolver and the patterns alone. -/
theorem resolve_congr [GoParser] {o o' : Options} (resolver : o'.resolver = o.resolver)
    (patterns : o'.patterns = o.patterns) (path content : Bytes) (scan : Scan) :
    o'.resolve path content scan = o.resolve path content scan := by
  rw [resolve, resolve, resolver, patterns]

/-- What is found out about a file does not depend on what is reported of it. -/
theorem examine_congr [GoParser] {o o' : Options} (normalize : o'.normalize = o.normalize)
    (resolver : o'.resolver = o.resolver) (patterns : o'.patterns = o.patterns)
    (file : SourceFile) : o'.examine file = o.examine file := by
  simp only [examine, normalize, resolve_congr resolver patterns]

/-- Options that find out the same about a file give the same comments and notes. -/
theorem extractText_congr [GoParser] {o o' : Options} (normalize : o'.normalize = o.normalize)
    (resolver : o'.resolver = o.resolver) (patterns : o'.patterns = o.patterns)
    {name content : Bytes} {files : FileSet} {outcome : Outcome}
    (extracted : o.extractText false none name content = .ok (files, outcome)) :
    ∃ files' outcome', o'.extractText false none name content = .ok (files', outcome') ∧
      outcome'.result.comments = outcome.result.comments ∧
      outcome'.result.notes = outcome.result.notes := by
  obtain ⟨outcome₁, phases₁, extracted₁, result₁⟩ := o.extractText_uncached name content
  obtain ⟨outcome', phases', extracted', result'⟩ := o'.extractText_uncached name content
  obtain ⟨rfl, rfl⟩ := Prod.mk.inj (Except.ok.inj (extracted.symm.trans extracted₁))
  rw [examine_congr normalize resolver patterns] at result'
  refine ⟨_, outcome', extracted', ?_, ?_⟩
  · rw [result', result₁, comments_report, comments_report]
  · rw [result', result₁, notes_report, notes_report]

/-- **What an extraction without a cache comes to**, for every choice of a resolver and all patterns,
right or not.  It always gives a result.  The comments are those of the scan, with owners.  The notes
are made from the comments, and report with the severity of the code.  The bag holds what the options
let through of the diagnostics of the scan, followed by those of the notes.  Comments and notes stay the
same when the options change in what they let through, in the number of jobs or in taking timings.

Of a text of 2³² bytes or more there is nothing to report: the program stops when it finds no room for
it in the set of files. -/
theorem extractText_reports [GoParser] (o : Options) (name content : Bytes) :
    ∃ files outcome, o.extractText false none name content = .ok (files, outcome) ∧
      (({} : FileSet).add? name content .virtual = some (0, files) ↔ content.length < UInt32.size) ∧
      outcome.result.comments.map Comment.unowned = (Scan.ofText o.normalize content).comments ∧
      outcome.result.notes = Notes.ofComments outcome.result.comments ∧
      (∀ d ∈ outcome.result.notes.diagnostics, d.severity = d.code.severity) ∧
      outcome.result.bag.map Bag.items
        = some (o.reported ((Scan.ofText o.normalize content).diagnostics
            ++ outcome.result.notes.diagnostics)) ∧
      ∀ (maxDiagnostics jobs : Int) (ignoreInfo warningsAsErrors timings : Bool),
        ∃ files' outcome',
          { o with maxDiagnostics, ignoreInfo, warningsAsErrors, jobs, timings }.extractText false
            none name content = .ok (files', outcome') ∧
          outcome'.result.comments = outcome.result.comments ∧
          outcome'.result.notes = outcome.result.notes := by
  obtain ⟨outcome, phases, extracted, result⟩ := o.extractText_uncached name content
  generalize file : (⟨0, Path.clean name, content, .virtual⟩ : SourceFile) = text at result
  have comments : outcome.result.comments = (o.examine text).comments := by
    rw [result, comments_report]
  have notes : outcome.result.notes = (o.examine text).notes := by
    rw [result, notes_report]
  refine ⟨_, outcome, extracted, ?_, ?_, ?_, fun d => ?_, ?_, ?_⟩
  · exact FileSet.add?_eq_some_iff.trans (and_iff_left (by decide))
  · rw [comments, unowned_examine, ← file]
  · rw [notes, comments, notes_examine]
  · rw [notes, notes_examine]
    exact Notes.severity_of_mem
  · have scanned : (o.examine text).scanDiagnostics
        = (Scan.ofText o.normalize content).diagnostics := by
      rw [scanDiagnostics_examine, ← file]
      rfl
    rw [notes, result, items_report, scanned]
  · intro maxDiagnostics jobs ignoreInfo warningsAsErrors timings
    exact extractText_congr (o := o) (by rfl) (by rfl) (by rfl) extracted

end Options

end Marginalia
