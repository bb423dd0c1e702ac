import Marginalia.Proofs.Extraction.Report
import Marginalia.Proofs.Output.Agreement

/-!
# Documents are consistent

A document lists all files, shows the first diagnostics of all files that could be read,
as many as its limit allows, and counts what it shows by severity
(`consistent_ofResults`).

A document can be made in one pass.  The pass knows how many diagnostics there is still
room for; it shows the diagnostics of a file one after the other, counts each by its
severity, and stops at the file in which the room ends, but goes on to the next files.
One file more brings the pass from the document of some results to the document of one
more (`Draft.Of.file`), so it ends with the document of all (`onePass_eq`).
-/

namespace Marginalia

set_option autoImplicit false

namespace Document

variable {o : DocumentOptions} {scene : Scene} {r : FileResult}

/-! ## What is shown -/

/-- The first diagnostics of a list, as many as there is room for. -/
def fitting (room : Option Nat) (ds : List Diagnostic) : List Diagnostic :=
  room.elim ds fun n => ds.take n

/-- The room that is left when some of the first diagnostics are shown. -/
def left (room : Option Nat) (ds : List Diagnostic) : Option Nat := room.map (· - ds.length)

/-- The room in an empty document. -/
def startingRoom (o : DocumentOptions) : Option Nat := if 0 < o.max then some o.max.toNat else none

theorem isPrefix_fitting (room : Option Nat) (ds : List Diagnostic) : fitting room ds <+: ds := by
  cases room with
  | none => exact List.prefix_refl ds
  | some n => exact List.take_prefix n ds

theorem fitting_append (room : Option Nat) (ds ds' : List Diagnostic) :
    fitting room (ds ++ ds') = fitting room ds ++ fitting (left room ds) ds' := by
  cases room with
  | none => rfl
  | some n => exact List.take_append

theorem left_append (room : Option Nat) (ds ds' : List Diagnostic) :
    left room (ds ++ ds') = left (left room ds) ds' := by
  cases room with
  | none => rfl
  | some n => simp [left, Nat.sub_sub]

/-- Room is taken up by what is shown, whether there was enough or not. -/
theorem left_fitting (room : Option Nat) (ds : List Diagnostic) :
    left room (fitting room ds) = left room ds := by
  cases room with
  | none => rfl
  | some n =>
    simp only [left, fitting, Option.map_some, Option.elim_some, List.length_take]
    congr 1
    omega

theorem fitting_startingRoom (o : DocumentOptions) (ds : List Diagnostic) :
    fitting (startingRoom o) ds = Bag.upTo o.max ds := by
  rw [startingRoom, Bag.upTo]
  split
  case isTrue positive => rw [if_neg (by omega)]; rfl
  case isFalse unlimited => rw [if_pos (by omega)]; rfl

/-- The files that could be read have all the diagnostics there are to show. -/
theorem flatMap_shown (results : List FileResult) :
    results.flatMap shown
      = (results.filter fun r => r.error.isNone).flatMap FileResult.diagnostics := by
  induction results with
  | nil => rfl
  | cons r results ih =>
    rw [List.flatMap_cons, ih, shown]
    cases error : r.error with
    | none =>
      rw [List.filter_cons_of_pos (by rw [error]; rfl), List.flatMap_cons]
      rfl
    | some e =>
      rw [List.filter_cons_of_neg (by simp [error])]
      rfl

/-- What is shown of a file are its first diagnostics. -/
theorem diagnostics_entry_of_first (o : DocumentOptions) (scene : Scene) {ds : List Diagnostic}
    (first : ds <+: shown r) : (entry o scene r ds).diagnostics = ds := by
  rw [shown] at first
  rw [entry]
  cases error : r.error with
  | none => rfl
  | some e =>
    rw [error] at first
    exact (List.prefix_nil.1 first).symm

theorem error_entry (o : DocumentOptions) (scene : Scene) (r : FileResult) (ds : List Diagnostic) :
    (entry o scene r ds).error = r.error.getD [] := by
  rw [entry]
  cases r.error <;> rfl

/-- **One file in front**: it shows what there is room for, and leaves the rest of the room. -/
theorem entries_cons (o : DocumentOptions) (scene : Scene) (room : Option Nat) (r : FileResult)
    (results : List FileResult) :
    entries o scene room (r :: results)
      = entry o scene r (fitting room (shown r))
        :: entries o scene (left room (shown r)) results := by
  rw [← left_fitting]
  cases room with
  | none => rfl
  | some n => rfl

/-- The files together show the first diagnostics of all. -/
theorem flatMap_diagnostics_entries (o : DocumentOptions) (scene : Scene) (room : Option Nat)
    (results : List FileResult) :
    (entries o scene room results).flatMap FileEntry.diagnostics
      = fitting room (results.flatMap shown) := by
  induction results generalizing room with
  | nil => cases room <;> simp [entries, fitting]
  | cons r results ih =>
    rw [entries_cons, List.flatMap_cons, ih, List.flatMap_cons, fitting_append,
      diagnostics_entry_of_first o scene (isPrefix_fitting room _)]

/-- A file is listed under its path with the error that it could not be read for, and shows no other
than its first diagnostics. -/
structure Lists (o : DocumentOptions) (scene : Scene) (r : FileResult) (e : FileEntry) : Prop where
  path : e.path = scene.display o.style r.path
  error : e.error = r.error.getD []
  diagnostics : e.diagnostics <+: shown r

theorem forall₂_lists_entries (o : DocumentOptions) (scene : Scene) (room : Option Nat)
    (results : List FileResult) :
    List.Forall₂ (Lists o scene) results (entries o scene room results) := by
  induction results generalizing room with
  | nil => exact .nil
  | cons r results ih =>
    rw [entries_cons]
    refine .cons ⟨path_entry .., error_entry .., ?_⟩ (ih _)
    rw [diagnostics_entry_of_first o scene (isPrefix_fitting room _)]
    exact isPrefix_fitting room _

theorem files_ofResults (o : DocumentOptions) (scene : Scene) (results : List FileResult) :
    (ofResults o scene results).files = entries o scene (startingRoom o) results := rfl

theorem flatMap_diagnostics_files (o : DocumentOptions) (scene : Scene) (results : List FileResult) :
    (ofResults o scene results).files.flatMap FileEntry.diagnostics
      = Bag.upTo o.max (results.flatMap shown) := by
  rw [files_ofResults, flatMap_diagnostics_entries, fitting_startingRoom]

/-! ## What is counted -/

/-- Every diagnostic is an error, a warning, or neither and counted as an info. -/
theorem countP_severities (ds : List Diagnostic) :
    (ds.countP fun d => d.severity = .error) + (ds.countP fun d => d.severity = .warn)
      + (ds.countP fun d => d.severity ≠ .error ∧ d.severity ≠ .warn) = ds.length := by
  induction ds with
  | nil => rfl
  | cons d ds ih =>
    rw [List.length_cons, ← ih]
    have apart : Severity.error ≠ Severity.warn := by decide
    by_cases error : d.severity = .error
    · simp [error, apart]
      omega
    by_cases warn : d.severity = .warn
    · simp [warn, apart.symm]
      omega
    · simp [error, warn]
      omega

/-! ## One pass -/

/-- The document of no results. -/
def empty : Document := { files := [], count := 0, errors := 0, warnings := 0, infos := 0 }

/-- The document with one diagnostic more counted. -/
def tally (document : Document) (d : Diagnostic) : Document :=
  let document := { document with count := document.count + 1 }
  if d.severity = .error then { document with errors := document.errors + 1 }
  else if d.severity = .warn then { document with warnings := document.warnings + 1 }
  else { document with infos := document.infos + 1 }

/-- A document in the making, and how many diagnostics there is still room for. -/
structure Draft where
  document : Document
  room : Int

/-- Counts diagnostics one after the other as long as there is room: those that are shown, and the
draft afterwards. -/
def Draft.fill (limited : Bool) : Draft → List Diagnostic → List Diagnostic × Draft
  | draft, [] => ([], draft)
  | draft, d :: ds =>
    if limited ∧ draft.room = 0 then ([], draft)
    else
      let room := if limited then draft.room - 1 else draft.room
      let rest := Draft.fill limited { document := draft.document.tally d, room } ds
      (d :: rest.1, rest.2)

/-- Adds a file with the diagnostics there is room for. -/
def Draft.file (o : DocumentOptions) (scene : Scene) (draft : Draft) (r : FileResult) : Draft :=
  let (ds, draft) := draft.fill (0 < o.max) (shown r)
  { draft with document :=
      { draft.document with files := draft.document.files ++ [entry o scene r ds] } }

/-- The document that one pass over the results makes. -/
def onePass (o : DocumentOptions) (scene : Scene) (results : List FileResult) : Document :=
  (results.foldl (Draft.file o scene) { document := empty, room := o.max }).document

theorem foldl_tally (ds : List Diagnostic) (document : Document) :
    ds.foldl tally document
      = { files := document.files
          count := document.count + ds.length
          errors := document.errors + ds.countP fun d => d.severity = .error
          warnings := document.warnings + ds.countP fun d => d.severity = .warn
          infos := document.infos
            + ds.countP fun d => d.severity ≠ .error ∧ d.severity ≠ .warn } := by
  induction ds generalizing document with
  | nil => rfl
  | cons d ds ih =>
    rw [List.foldl_cons, ih, tally]
    have apart : Severity.error ≠ Severity.warn := by decide
    by_cases error : d.severity = .error
    · simp [error, apart]
      omega
    by_cases warn : d.severity = .warn
    · simp [warn, apart.symm]
      omega
    · simp [error, warn]
      omega

theorem fill_unlimited (draft : Draft) (ds : List Diagnostic) :
    draft.fill false ds = (ds, { draft with document := ds.foldl tally draft.document }) := by
  induction ds generalizing draft with
  | nil => rfl
  | cons d ds ih => simp [Draft.fill, ih]

theorem fill_limited (document : Document) (n : Nat) (ds : List Diagnostic) :
    Draft.fill true { document, room := n } ds
      = (ds.take n,
          { document := (ds.take n).foldl tally document, room := (n - ds.length : Nat) }) := by
  induction ds generalizing document n with
  | nil => simp [Draft.fill]
  | cons d ds ih =>
    cases n with
    | zero => simp [Draft.fill]
    | succ n =>
      have next : ((n + 1 : Nat) : Int) - 1 = n := by omega
      have more : ¬ ((n + 1 : Nat) : Int) = 0 := by omega
      rw [Draft.fill, if_neg fun full => more full.2]
      simp only [if_true, next, ih, List.take_succ_cons, List.foldl_cons, List.length_cons,
        Nat.add_sub_add_right]

/-- **One file behind**: it shows what there is room for behind the others. -/
theorem entries_concat (o : DocumentOptions) (scene : Scene) (room : Option Nat)
    (before : List FileResult) (r : FileResult) :
    entries o scene room (before ++ [r])
      = entries o scene room before
        ++ [entry o scene r (fitting (left room (before.flatMap shown)) (shown r))] := by
  induction before generalizing room with
  | nil =>
    have all : left room [] = room := by cases room <;> rfl
    rw [List.nil_append, entries_cons, List.flatMap_nil, all]
    rfl
  | cons r' before ih =>
    rw [List.cons_append, entries_cons, entries_cons, ih, List.flatMap_cons, left_append]
    rfl

/-- A document has its files, and counts what they show. -/
theorem ofResults_eq_foldl (o : DocumentOptions) (scene : Scene) (results : List FileResult) :
    ofResults o scene results
      = { (fitting (startingRoom o) (results.flatMap shown)).foldl tally empty with
          files := entries o scene (startingRoom o) results } := by
  have shows := flatMap_diagnostics_entries o scene (startingRoom o) results
  rw [← files_ofResults] at shows ⊢
  rw [← shows, foldl_tally]
  simp [ofResults, empty]

/-- **One file more** is counted with the others. -/
theorem ofResults_concat (o : DocumentOptions) (scene : Scene) (before : List FileResult)
    (r : FileResult) :
    ofResults o scene (before ++ [r])
      = let ds := fitting (left (startingRoom o) (before.flatMap shown)) (shown r)
        { ds.foldl tally (ofResults o scene before) with
          files := (ofResults o scene before).files ++ [entry o scene r ds] } := by
  rw [ofResults_eq_foldl, ofResults_eq_foldl, entries_concat, List.flatMap_append,
    List.flatMap_singleton, fitting_append, List.foldl_append]
  simp only [foldl_tally]

/-- A draft is that of some results: it has their document, and room for the diagnostics that they
leave room for. -/
structure Draft.Of (o : DocumentOptions) (scene : Scene) (before : List FileResult)
    (draft : Draft) : Prop where
  document : draft.document = ofResults o scene before
  room : 0 < o.max → draft.room = (o.max.toNat - (before.flatMap shown).length : Nat)

/-- **One file more** brings a pass from the draft of some results to that of one more. -/
theorem Draft.Of.file {draft : Draft} {before : List FileResult} (of : draft.Of o scene before)
    (r : FileResult) : (draft.file o scene r).Of o scene (before ++ [r]) := by
  obtain ⟨document, n⟩ := draft
  obtain ⟨rfl, room⟩ := of
  by_cases limited : 0 < o.max
  · have start : startingRoom o = some o.max.toNat := if_pos limited
    obtain rfl := room limited
    have next : Draft.file o scene
        { document := ofResults o scene before
          room := (o.max.toNat - (before.flatMap shown).length : Nat) } r
        = { document := ofResults o scene (before ++ [r])
            room := (o.max.toNat - (before.flatMap shown).length - (shown r).length : Nat) } := by
      rw [ofResults_concat, start, Draft.file, decide_eq_true limited, fill_limited]
      simp only [foldl_tally]
      rfl
    rw [next]
    refine ⟨rfl, fun _ => ?_⟩
    rw [List.flatMap_append, List.flatMap_singleton, List.length_append, Nat.sub_sub]
  · have start : startingRoom o = none := if_neg limited
    have next : Draft.file o scene { document := ofResults o scene before, room := n } r
        = { document := ofResults o scene (before ++ [r]), room := n } := by
      rw [ofResults_concat, start, Draft.file, decide_eq_false limited, fill_unlimited]
      simp only [foldl_tally]
      rfl
    rw [next]
    exact ⟨rfl, fun positive => absurd positive limited⟩

/-- **One pass makes the document.** -/
theorem onePass_eq (o : DocumentOptions) (scene : Scene) (results : List FileResult) :
    onePass o scene results = ofResults o scene results := by
  have of : Draft.Of o scene results
      (results.foldl (Draft.file o scene) { document := empty, room := o.max }) := by
    induction results using List.reverseRecOn with
    | nil => exact ⟨rfl, fun positive => (Int.toNat_of_nonneg positive.le).symm⟩
    | append_singleton before r ih =>
      rw [List.foldl_append, List.foldl_cons, List.foldl_nil]
      exact ih.file r
  exact of.document

/-! ## Consistency -/

/-- A document of results is consistent: it lists every file, shows the first diagnostics of those that
could be read, as many as there is room for, and counts what it shows. -/
structure Consistent (o : DocumentOptions) (scene : Scene) (results : List FileResult)
    (document : Document) : Prop where
  /-- every file is listed, in the order of the results -/
  files : List.Forall₂ (Lists o scene) results document.files
  /-- the first diagnostics are shown -/
  shown : document.files.flatMap FileEntry.diagnostics
    = Bag.upTo o.max ((results.filter fun r => r.error.isNone).flatMap FileResult.diagnostics)
  count : document.count = (document.files.flatMap FileEntry.diagnostics).length
  errors : document.errors
    = (document.files.flatMap FileEntry.diagnostics).countP fun d => d.severity = .error
  warnings : document.warnings
    = (document.files.flatMap FileEntry.diagnostics).countP fun d => d.severity = .warn
  /-- whatever is neither an error nor a warning counts as an info -/
  infos : document.infos = (document.files.flatMap FileEntry.diagnostics).countP
    fun d => d.severity ≠ .error ∧ d.severity ≠ .warn
  total : document.errors + document.warnings + document.infos = document.count

/-- **A document is consistent**, and one pass that counts as it shows makes the same document. -/
theorem consistent_ofResults (o : DocumentOptions) (scene : Scene) (results : List FileResult) :
    Consistent o scene results (ofResults o scene results) ∧
      onePass o scene results = ofResults o scene results := by
  refine ⟨?_, onePass_eq o scene results⟩
  exact {
    files := forall₂_lists_entries o scene (startingRoom o) results
    shown := by rw [flatMap_diagnostics_files, flatMap_shown]
    count := rfl
    errors := rfl
    warnings := rfl
    infos := rfl
    total := countP_severities _ }

end Document

end Marginalia
