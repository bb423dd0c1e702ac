import Marginalia.Proofs.Cache.History
import Marginalia.Proofs.Cache.RoundTrip
import Marginalia.Proofs.Extraction.Schedule

/-!
# Failure under a limit on diagnostics

A run over files fails if a file cannot be read, or if an error is among the
diagnostics that are reported.  A limit keeps the first diagnostics of each file, and
it counts what is left after the choices: by then what is not wanted is gone, and a
warning may have become an error.

An error of the scan comes before everything that the notes report, so no limit can
hide it.  A warning that counts as an error may come after what is merely
informative, and then a limit can.  The main statement (`anyFailed_capped`) says that
this is the only way: a limit never makes a run fail, and it changes the verdict only
if warnings count as errors, informative diagnostics are kept, and these fill the
limit in every file that has an error.
-/

namespace Marginalia

set_option autoImplicit false

/-! ## Errors in front -/

/-- Is the diagnostic at least an error? -/
def Diagnostic.isError (d : Diagnostic) : Bool := Severity.error.atLeast d.severity

namespace Bag

/-- Before an error there are only errors. -/
def ErrorsFirst (ds : List Diagnostic) : Prop := ds.Pairwise fun d e => e.isError → d.isError

theorem mem_of_mem_upTo {limit : Int} {ds : List Diagnostic} {d : Diagnostic}
    (kept : d ∈ upTo limit ds) : d ∈ ds := by
  rw [upTo] at kept
  split at kept
  next => exact kept
  next => exact List.mem_of_mem_take kept

/-- **A limit does not hide errors that come first.** -/
theorem any_isError_upTo {limit : Int} {ds : List Diagnostic} (first : ErrorsFirst ds)
    (positive : 1 ≤ limit) :
    (upTo limit ds).any Diagnostic.isError = ds.any Diagnostic.isError := by
  rw [upTo, if_neg (by omega)]
  cases ds with
  | nil => simp
  | cons d ds =>
    obtain ⟨n, size⟩ : ∃ n, limit.toNat = n + 1 := ⟨limit.toNat - 1, by omega⟩
    rw [size, List.take_succ_cons, List.any_cons, List.any_cons]
    cases error : d.isError with
    | true => rfl
    | false =>
      have none : ∀ e ∈ ds, ¬ e.isError = true := by
        intro e member isError
        have before := List.rel_of_pairwise_cons first member isError
        rw [error] at before
        cases before
      rw [Bool.false_or, Bool.false_or, List.any_eq_false.2 none,
        List.any_eq_false.2 fun e member => none e (List.mem_of_mem_take member)]

end Bag

/-! ## What an extraction finds -/

/-- The scan found errors only, and the notes report nothing that is an error. -/
structure Payload.Ordinary (p : Payload) : Prop where
  scanned : ∀ d ∈ p.scanDiagnostics, d.severity = .error
  noted : ∀ d ∈ p.notes.diagnostics, d.severity = .info ∨ d.severity = .warn

/-- Notes report nothing that is an error. -/
theorem Notes.severity_ofComments {cs : List Comment} {d : Diagnostic}
    (member : d ∈ (Notes.ofComments cs).diagnostics) :
    d.severity = .info ∨ d.severity = .warn := by
  obtain ⟨c, -, f, rfl⟩ := Notes.exists_reportedOn member
  exact f.severity_code

/-- A scan reports errors only. -/
theorem Scan.severity_ofText {content : Bytes} {d : Diagnostic}
    (member : d ∈ (Scan.ofText false content).diagnostics) : d.severity = .error := by
  obtain ⟨⟨offset, lexeme⟩, -, reported⟩ := List.mem_filterMap.1 member
  have severity : Code.unterminated.severity = .error := by decide
  unfold diagnostic? at reported
  split at reported
  next =>
    obtain rfl := Option.some.inj reported
    exact severity
  next => cases reported

theorem Options.ordinary_examine [GoParser] (o : Options) (file : SourceFile) :
    (o.examine file).Ordinary where
  scanned := by
    rw [scanDiagnostics_examine]
    exact fun d => Scan.severity_ofText
  noted := by
    rw [notes_examine]
    exact fun d => Notes.severity_ofComments

/-- Everything that can be read from the cache was found out about some file. -/
def Cache.HoldsFindings [GoParser] (c : Cache) : Prop :=
  ∀ key p, c.get? key = some p → ∃ (o : Options) (file : SourceFile), p = o.examine file

/-! ## The verdict on one file -/

namespace Options

/-- The options with another limit. -/
def capped (o : Options) (limit : Int) : Options := { o with maxDiagnostics := limit }

/-- What would be reported of some diagnostics without a limit. -/
def listed (o : Options) (ds : List Diagnostic) : List Diagnostic := (ds.filter o.wants).map o.counted

/-- The limit has no part in what is found out. -/
theorem examine_capped [GoParser] (o : Options) (limit : Int) (file : SourceFile) :
    (o.capped limit).examine file = o.examine file := by
  apply examine_congr <;> rfl

/-- The limit is not part of the key of a file. -/
theorem key_capped (o : Options) (limit : Int) (path hash : Bytes) :
    CacheKey.of path hash (o.capped limit) = CacheKey.of path hash o := by
  have fingerprint : (o.capped limit).fingerprint = o.fingerprint := rfl
  rw [CacheKey.of, CacheKey.of, fingerprint]

variable {o : Options} {p : Payload}

/-- Where warnings are no errors, the errors are those of the scan. -/
theorem errorsFirst_of_plain (ordinary : p.Ordinary) (plain : o.warningsAsErrors = false) :
    Bag.ErrorsFirst (o.listed (p.scanDiagnostics ++ p.notes.diagnostics)) := by
  have unchanged : o.counted = id := by
    funext d
    simp [counted, plain]
  rw [listed, unchanged, List.map_id]
  refine List.Pairwise.filter _ (List.pairwise_append.2 ⟨?_, ?_, ?_⟩)
  · refine List.pairwise_of_forall_mem_list fun d member _ _ _ => ?_
    rw [Diagnostic.isError, ordinary.scanned d member]
    rfl
  · refine List.pairwise_of_forall_mem_list fun d _ e member error => ?_
    rw [Diagnostic.isError] at error
    rcases ordinary.noted e member with severity | severity <;> rw [severity] at error <;> cases error
  · intro d member _ _ _
    rw [Diagnostic.isError, ordinary.scanned d member]
    rfl

/-- What is listed is informative, a warning or an error. -/
theorem severity_of_mem_listed (ordinary : p.Ordinary) {d : Diagnostic}
    (member : d ∈ o.listed (p.scanDiagnostics ++ p.notes.diagnostics)) :
    d.severity = .info ∧ o.ignoreInfo = false ∨ d.severity = .warn ∧ o.warningsAsErrors = false ∨
      d.severity = .error := by
  obtain ⟨e, among, rfl⟩ := List.mem_map.1 member
  obtain ⟨among, wanted⟩ := List.mem_filter.1 among
  have severity : e.severity = .error ∨ e.severity = .info ∨ e.severity = .warn := by
    rcases List.mem_append.1 among with scanned | noted
    · exact .inl (ordinary.scanned e scanned)
    · exact .inr (ordinary.noted e noted)
  rcases severity with error | info | warn
  · right; right
    simp [counted, error, Severity.error, Severity.warn]
  · left
    simp only [wants, info, decide_true, Bool.and_true, Bool.not_eq_true'] at wanted
    exact ⟨by simp [counted, info, Severity.info, Severity.warn], wanted⟩
  · right
    cases raised : o.warningsAsErrors with
    | true => exact .inr (by simp [counted, raised, warn])
    | false => exact .inl ⟨by simp [counted, raised, warn], rfl⟩

/-- Where nothing is merely informative and warnings are errors, there are only errors. -/
theorem errorsFirst_of_strict (ordinary : p.Ordinary) (strict : o.warningsAsErrors = true)
    (ignored : o.ignoreInfo = true) :
    Bag.ErrorsFirst (o.listed (p.scanDiagnostics ++ p.notes.diagnostics)) := by
  refine List.pairwise_of_forall_mem_list fun d member _ _ _ => ?_
  rcases severity_of_mem_listed ordinary member with ⟨-, kept⟩ | ⟨-, plain⟩ | error
  · rw [ignored] at kept
    cases kept
  · rw [strict] at plain
    cases plain
  · rw [Diagnostic.isError, error]
    rfl

end Options

namespace FileTask

/-- What would be reported of a file without a limit. -/
def unlimited [GoParser] (o : Options) (cache : Option Cache) : FileTask → List Diagnostic
  | (_, .error _) => []
  | (_, .ok file) =>
    let p := (cache.bind (·.get? (file.key o))).getD (o.examine file)
    o.listed (p.scanDiagnostics ++ p.notes.diagnostics)

variable {o : Options} {cache : Option Cache}

theorem diagnostics_result [GoParser] (o : Options) (cache : Option Cache) (t : FileTask) :
    (o.extractLoaded cache t.1 t.2).result.diagnostics
      = Bag.upTo o.maxDiagnostics (t.unlimited o cache) := by
  obtain ⟨path, e | file⟩ := t
  · have nothing : (o.bag [] []).items = Bag.upTo o.maxDiagnostics [] := o.bag_eq_reported [] []
    exact nothing
  · simp only [Options.extractLoaded, Options.extractFile, unlimited, SourceFile.key]
    cases cache.bind (·.get? (CacheKey.of file.path file.hash o)) with
    | some p =>
      rw [FileResult.diagnostics, Options.items_report]
      rfl
    | none =>
      rw [FileResult.diagnostics, Options.items_report]
      rfl

theorem unlimited_capped [GoParser] (o : Options) (cache : Option Cache) (limit : Int)
    (t : FileTask) :
    t.unlimited (o.capped limit) cache = t.unlimited o cache := by
  obtain ⟨path, e | file⟩ := t
  · rfl
  · have key : file.key (o.capped limit) = file.key o := o.key_capped limit _ _
    have choices : (o.capped limit).listed = o.listed := rfl
    rw [unlimited, unlimited, o.examine_capped, key, choices]

/-- What a cache or an extraction knows about a file is ordinary. -/
theorem exists_ordinary [GoParser] (trusted : ∀ c ∈ cache, c.HoldsFindings) (t : FileTask) :
    t.unlimited o cache = [] ∨ ∃ p : Payload, p.Ordinary ∧
      t.unlimited o cache = o.listed (p.scanDiagnostics ++ p.notes.diagnostics) := by
  obtain ⟨path, e | file⟩ := t
  · exact .inl rfl
  · refine .inr ⟨_, ?_, rfl⟩
    cases found : cache.bind (·.get? (file.key o)) with
    | none => exact o.ordinary_examine file
    | some p =>
      obtain ⟨c, here, kept⟩ := Option.bind_eq_some_iff.1 found
      obtain ⟨o', file', rfl⟩ := trusted c here _ _ kept
      exact o'.ordinary_examine file'

theorem errorsFirst_unlimited [GoParser] (trusted : ∀ c ∈ cache, c.HoldsFindings) (t : FileTask)
    (choice : o.warningsAsErrors = false ∨ o.ignoreInfo = true) :
    Bag.ErrorsFirst (t.unlimited o cache) := by
  rcases exists_ordinary (o := o) trusted t with nothing | ⟨p, ordinary, listed⟩
  · rw [nothing]
    exact List.Pairwise.nil
  · rw [listed]
    rcases Bool.eq_false_or_eq_true o.warningsAsErrors with strict | plain
    · have ignored : o.ignoreInfo = true := by simpa [strict] using choice
      exact Options.errorsFirst_of_strict ordinary strict ignored
    · exact Options.errorsFirst_of_plain ordinary plain

/-- Where warnings are errors, everything else is informative. -/
theorem isError_eq_false_iff [GoParser] (trusted : ∀ c ∈ cache, c.HoldsFindings) {t : FileTask}
    (strict : o.warningsAsErrors = true) {d : Diagnostic} (member : d ∈ t.unlimited o cache) :
    d.isError = false ↔ d.severity = .info := by
  rcases exists_ordinary (o := o) trusted t with nothing | ⟨p, ordinary, listed⟩
  · rw [nothing] at member
    cases member
  · rw [listed] at member
    rw [Diagnostic.isError]
    rcases Options.severity_of_mem_listed ordinary member with ⟨info, -⟩ | ⟨-, plain⟩ | error
    · rw [info]
      decide
    · rw [strict] at plain
      cases plain
    · rw [error]
      decide

/-- Can the cache give back what is found out about the file? -/
def Readable [GoParser] (o : Options) (t : FileTask) : Prop :=
  ∀ file, t.2 = .ok file → Payload.decode (o.examine file).encode = some (o.examine file)

/-- If there is a cache, then it holds findings and can give back those about the files. -/
def CanTrust [GoParser] (o : Options) (tasks : List FileTask) (cache : Option Cache) : Prop :=
  ∀ c ∈ cache, c.HoldsFindings ∧ ∀ t ∈ tasks, t.Readable o

/-- Work on a file leaves a cache that can be trusted with the others. -/
theorem CanTrust.step [GoParser] {t : FileTask} {rest : List FileTask}
    (trust : CanTrust o (t :: rest) cache) :
    CanTrust o rest (o.extractLoaded cache t.1 t.2).cache := by
  cases cache with
  | none =>
    intro c here
    obtain ⟨path, e | file⟩ := t <;> cases here
  | some before =>
    obtain ⟨holds, readable⟩ := trust before rfl
    rw [List.forall_mem_cons] at readable
    refine fun c here => ⟨fun key p kept => ?_, readable.2⟩
    obtain ⟨path, e | file⟩ := t
    · obtain rfl := Option.some.inj here
      exact holds key p kept
    · rw [Options.extractLoaded, Options.extractFile] at here
      split at here
      next =>
        obtain rfl := Option.some.inj here
        exact holds key p kept
      next =>
        obtain rfl := Option.some.inj here
        rw [Cache.get?, Cache.bytes?_put] at kept
        split at kept
        next =>
          rw [Option.bind_some, readable.1 file rfl] at kept
          exact ⟨o, file, (Option.some.inj kept).symm⟩
        next => exact holds key p kept

end FileTask

/-! ## The verdict on a run -/

/-- A result fails if its file could not be read or if an error is reported. -/
theorem FileResult.failed_iff (r : FileResult) :
    r.failed = true ↔ r.error ≠ none ∨ ∃ d ∈ r.diagnostics, d.isError = true := by
  have left : (r.bag.map Bag.hasErrors).getD false = r.diagnostics.any Diagnostic.isError := by
    rw [FileResult.diagnostics]
    cases r.bag with
    | some b => rfl
    | none => rfl
  rw [FileResult.failed, left, Bool.or_eq_true, List.any_eq_true, Option.isSome_iff_ne_none]

namespace Options

/-- The results for files that are worked on one after the other. -/
def resultsOf [GoParser] (o : Options) (cache : Option Cache) (tasks : List FileTask) :
    List FileResult :=
  (o.extractAll cache tasks).1.map Outcome.result

/-- Does a run over files fail? -/
def anyFailed [GoParser] (o : Options) (cache : Option Cache) (tasks : List FileTask) : Bool :=
  (o.resultsOf cache tasks).any FileResult.failed

/-- The files of a run, each with the cache as the files before it left it. -/
def met [GoParser] (o : Options) : Option Cache → List FileTask → List (Option Cache × FileTask)
  | _, [] => []
  | cache, t :: rest => (cache, t) :: o.met (o.extractLoaded cache t.1 t.2).cache rest

/-- The result for a file that meets a cache. -/
def resultAt [GoParser] (o : Options) (m : Option Cache × FileTask) : FileResult :=
  (o.extractLoaded m.1 m.2.1 m.2.2).result

variable {o : Options} {cache : Option Cache} {tasks : List FileTask}

theorem resultsOf_eq_met [GoParser] (o : Options) (cache : Option Cache) (tasks : List FileTask) :
    o.resultsOf cache tasks = (o.met cache tasks).map o.resultAt := by
  induction tasks generalizing cache with
  | nil => rfl
  | cons t rest ih =>
    rw [met, List.map_cons, ← ih]
    rfl

/-- A file leaves the same cache whatever the limit. -/
theorem cache_extractLoaded_capped [GoParser] (o : Options) (limit : Int) (cache : Option Cache)
    (t : FileTask) :
    ((o.capped limit).extractLoaded cache t.1 t.2).cache = (o.extractLoaded cache t.1 t.2).cache := by
  obtain ⟨path, e | file⟩ := t
  · rfl
  · simp only [extractLoaded, extractFile, key_capped, examine_capped]
    cases cache.bind (·.get? (CacheKey.of file.path file.hash o)) with
    | some p => rfl
    | none => rfl

theorem met_capped [GoParser] (o : Options) (limit : Int) (cache : Option Cache)
    (tasks : List FileTask) :
    (o.capped limit).met cache tasks = o.met cache tasks := by
  induction tasks generalizing cache with
  | nil => rfl
  | cons t rest ih => rw [met, met, cache_extractLoaded_capped, ih]

/-- Every cache that is met in a run holds findings. -/
theorem holdsFindings_of_met [GoParser] (trust : FileTask.CanTrust o tasks cache)
    {m : Option Cache × FileTask} (member : m ∈ o.met cache tasks) : ∀ c ∈ m.1, c.HoldsFindings := by
  induction tasks generalizing cache with
  | nil => cases member
  | cons t rest ih =>
    rcases List.mem_cons.1 member with rfl | member
    · exact fun c here => (trust c here).1
    · exact ih trust.step member

/-- There is no error with a file that was read. -/
theorem error_resultAt_ok [GoParser] (o : Options) (cache : Option Cache) (path : Bytes)
    (file : SourceFile) :
    (o.resultAt (cache, path, .ok file)).error = none := by
  simp only [resultAt, extractLoaded, extractFile]
  cases cache.bind (·.get? (CacheKey.of file.path file.hash o)) with
  | some p => rfl
  | none => rfl

/-- A limit does not change whether a file can be read. -/
theorem error_resultAt_capped [GoParser] (o : Options) (limit : Int) (m : Option Cache × FileTask) :
    ((o.capped limit).resultAt m).error = (o.resultAt m).error := by
  obtain ⟨cache, path, e | file⟩ := m
  · rfl
  · rw [error_resultAt_ok, error_resultAt_ok]

theorem diagnostics_resultAt_capped [GoParser] (o : Options) (limit : Int)
    (m : Option Cache × FileTask) :
    ((o.capped limit).resultAt m).diagnostics = Bag.upTo limit (m.2.unlimited o m.1) := by
  rw [resultAt, FileTask.diagnostics_result, FileTask.unlimited_capped]
  rfl

/-- The results under a limit, from the files and the caches they meet. -/
theorem mem_resultsOf_capped [GoParser] {limit : Int} {r : FileResult} :
    r ∈ (o.capped limit).resultsOf cache tasks ↔
      ∃ m ∈ o.met cache tasks, (o.capped limit).resultAt m = r := by
  rw [resultsOf_eq_met, met_capped, List.mem_map]

/-- A run fails at a file that could not be read or that has an error left. -/
theorem anyFailed_capped_iff [GoParser] (o : Options) (cache : Option Cache) (tasks : List FileTask)
    (limit : Int) :
    (o.capped limit).anyFailed cache tasks = true ↔
      ∃ m ∈ o.met cache tasks, (o.resultAt m).error ≠ none ∨
        ∃ d ∈ Bag.upTo limit (m.2.unlimited o m.1), d.isError = true := by
  rw [anyFailed, resultsOf_eq_met, met_capped, List.any_map, List.any_eq_true]
  refine exists_congr fun m => and_congr_right fun _ => ?_
  rw [Function.comp_apply, FileResult.failed_iff, error_resultAt_capped, diagnostics_resultAt_capped]

/-- A limit never makes a run fail. -/
theorem anyFailed_of_capped [GoParser] {limit : Int}
    (failed : (o.capped limit).anyFailed cache tasks = true) :
    (o.capped 0).anyFailed cache tasks = true := by
  rw [anyFailed_capped_iff] at failed ⊢
  obtain ⟨m, member, unread | ⟨d, left, error⟩⟩ := failed
  · exact ⟨m, member, .inl unread⟩
  · exact ⟨m, member, .inr ⟨d, Bag.mem_of_mem_upTo left, error⟩⟩

/-- The verdict is the same where the errors of each file come first. -/
theorem anyFailed_capped_of_choice [GoParser] (trust : FileTask.CanTrust o tasks cache)
    {limit : Int}
    (positive : 1 ≤ limit) (choice : o.warningsAsErrors = false ∨ o.ignoreInfo = true) :
    (o.capped limit).anyFailed cache tasks = (o.capped 0).anyFailed cache tasks := by
  rw [Bool.eq_iff_iff, anyFailed_capped_iff, anyFailed_capped_iff]
  refine exists_congr fun m => and_congr_right fun member => or_congr_right ?_
  have first := FileTask.errorsFirst_unlimited (holdsFindings_of_met trust member) m.2 choice
  rw [← List.any_eq_true, ← List.any_eq_true, Bag.any_isError_upTo first positive]
  rfl

/-- Where warnings count as errors, a run passes if every file can be read and all that is left is
informative. -/
theorem anyFailed_capped_eq_false_iff [GoParser] (trust : FileTask.CanTrust o tasks cache)
    (strict : o.warningsAsErrors = true) (limit : Int) :
    (o.capped limit).anyFailed cache tasks = false ↔
      ∀ r ∈ (o.capped limit).resultsOf cache tasks,
        r.error = none ∧ ∀ d ∈ r.diagnostics, d.severity = .info := by
  rw [anyFailed, List.any_eq_false]
  refine forall₂_congr fun r result => ?_
  obtain ⟨m, member, rfl⟩ := mem_resultsOf_capped.1 result
  rw [FileResult.failed_iff, not_or, not_not]
  refine and_congr_right fun _ => ?_
  simp only [not_exists, not_and, Bool.not_eq_true]
  refine forall₂_congr fun d left => ?_
  rw [diagnostics_resultAt_capped] at left
  exact FileTask.isError_eq_false_iff (holdsFindings_of_met trust member) strict
    (Bag.mem_of_mem_upTo left)

/-- **A limit and the verdict.**  A run that fails under a limit fails without one.  If warnings are no
errors, or if nothing is merely informative, the verdict is the same.  If warnings count as errors, it
differs exactly when every file can be read, all that is left under the limit is informative, and some
file has an error that is not left. -/
theorem anyFailed_capped [GoParser] (o : Options) (cache : Option Cache) (tasks : List FileTask)
    (trust : FileTask.CanTrust o tasks cache) {limit : Int} (positive : 1 ≤ limit) :
    ((o.capped limit).anyFailed cache tasks = true → (o.capped 0).anyFailed cache tasks = true) ∧
    (o.warningsAsErrors = false ∨ o.ignoreInfo = true →
      (o.capped limit).anyFailed cache tasks = (o.capped 0).anyFailed cache tasks) ∧
    (o.warningsAsErrors = true →
      ((o.capped limit).anyFailed cache tasks ≠ (o.capped 0).anyFailed cache tasks ↔
        (∀ r ∈ (o.capped limit).resultsOf cache tasks,
          r.error = none ∧ ∀ d ∈ r.diagnostics, d.severity = .info) ∧
        ∃ r ∈ (o.capped 0).resultsOf cache tasks, ∃ d ∈ r.diagnostics, d.isError = true)) := by
  refine ⟨anyFailed_of_capped, anyFailed_capped_of_choice trust positive, fun strict => ?_⟩
  have differ_iff : (o.capped limit).anyFailed cache tasks ≠ (o.capped 0).anyFailed cache tasks ↔
      (o.capped limit).anyFailed cache tasks = false ∧ (o.capped 0).anyFailed cache tasks = true := by
    cases limited : (o.capped limit).anyFailed cache tasks with
    | true => simp [anyFailed_of_capped limited]
    | false => simp
  rw [differ_iff, anyFailed_capped_eq_false_iff trust strict]
  refine and_congr_right fun pass => ?_
  rw [anyFailed, List.any_eq_true]
  refine exists_congr fun r => and_congr_right fun result => ?_
  rw [FileResult.failed_iff, or_iff_right]
  -- The same file is read under either limit.
  obtain ⟨m, member, rfl⟩ := mem_resultsOf_capped.1 result
  have read := (pass _ (mem_resultsOf_capped.2 ⟨m, member, rfl⟩)).1
  rw [error_resultAt_capped] at read ⊢
  exact fun unread => unread read

/-! ### Informative diagnostics in front -/

/-- A file with a block of no examples, which is informative, above a tech-debt note without a reason,
which is a warning. -/
def infoFirst : SourceFile :=
  { id := 0, path := utf8 "a.js", content := utf8 "/*?? */\n//--\n", flags := .virtual }

/-- Owners are not looked for. -/
def plain : Options := { resolver := .nobody }

/-- Warnings count as errors. -/
def strict : Options := { plain with warningsAsErrors := true }

/-- Something that no extraction finds out: an informative diagnostic of the scan, above an error. -/
def planted : Payload where
  scanDiagnostics := [⟨⟨[]⟩, ⟨[]⟩, [], 1, none, none, .info, none⟩,
    ⟨⟨[]⟩, ⟨[]⟩, [], 2, none, none, .error, none⟩]

/-- A cache in which that stands for the file. -/
def plantedCache : Cache := ({} : Cache).put (infoFirst.key plain) planted

/-- Where no owners are looked for, the comments are those of the scan. -/
theorem comments_examine_nobody [GoParser] (nobody : o.resolver = .nobody) (file : SourceFile) :
    (o.examine file).comments = (Scan.ofText o.normalize file.content).comments := by
  rw [examine, resolve, nobody, Resolver.ofKind]
  cases LineMatcher.ofPatterns o.patterns <;> rfl

theorem unlimited_infoFirst [GoParser] :
    (FileTask.unlimited strict none (utf8 "a.js", .ok infoFirst)).map Diagnostic.severity
      = [.info, .error] := by
  rw [FileTask.unlimited, Option.bind_none, Option.getD_none, scanDiagnostics_examine, notes_examine,
    comments_examine_nobody rfl]
  decide +kernel

theorem get?_plantedCache : plantedCache.get? (infoFirst.key plain) = some planted := by
  have storable : planted.Storable := {
    path := by decide
    comments := by simp [planted]
    notes := ⟨by decide, by simp [planted], by simp [planted], by simp [planted]⟩
    scanDiagnostics := by
      refine ⟨by decide, ?_⟩
      simp only [planted, List.forall_mem_cons]
      exact ⟨⟨by decide, by decide, by decide, by decide, by decide, by decide, .inl rfl, by decide⟩,
        ⟨by decide, by decide, by decide, by decide, by decide, by decide, .inr (.inr rfl), by decide⟩,
        by simp⟩
    resolverError := by decide }
  rw [Cache.get?, plantedCache, Cache.bytes?_put, if_pos rfl, Option.bind_some,
    Payload.encode_eq_encodeAs]
  exact Payload.decode_encodeAs storable .ofExamination

/-- A run over one file that was read fails if an error is left. -/
theorem anyFailed_capped_single [GoParser] (o : Options) (cache : Option Cache) (path : Bytes)
    (file : SourceFile) (limit : Int) :
    (o.capped limit).anyFailed cache [(path, .ok file)]
      = (Bag.upTo limit (FileTask.unlimited o cache (path, .ok file))).any Diagnostic.isError := by
  rw [Bool.eq_iff_iff, anyFailed_capped_iff, List.any_eq_true]
  simp [met, error_resultAt_ok]

/-- The limit 1 leaves the first of two diagnostics, and no limit leaves both. -/
theorem any_isError_infoFirst {ds : List Diagnostic}
    (severities : ds.map Diagnostic.severity = [.info, .error]) :
    (Bag.upTo 1 ds).any Diagnostic.isError = false ∧
      (Bag.upTo 0 ds).any Diagnostic.isError = true := by
  obtain ⟨d, rest, rfl, info, severities⟩ := List.map_eq_cons_iff.1 severities
  obtain ⟨e, rest, rfl, error, severities⟩ := List.map_eq_cons_iff.1 severities
  obtain rfl := List.map_eq_nil_iff.1 severities
  have first : d.isError = false := by
    rw [Diagnostic.isError, info]
    decide
  have second : e.isError = true := by
    rw [Diagnostic.isError, error]
    decide
  simp [Bag.upTo, first, second]

/-- **A limit can hide an error** behind something informative: where warnings count as errors, and
where the cache holds what was not found out. -/
theorem anyFailed_infoFirst :
    ((strict.capped 1).anyFailed none [(utf8 "a.js", .ok infoFirst)] = false ∧
      (strict.capped 0).anyFailed none [(utf8 "a.js", .ok infoFirst)] = true) ∧
    ((plain.capped 1).anyFailed (some plantedCache) [(utf8 "a.js", .ok infoFirst)] = false ∧
      (plain.capped 0).anyFailed (some plantedCache) [(utf8 "a.js", .ok infoFirst)] = true) := by
  simp only [anyFailed_capped_single]
  refine ⟨any_isError_infoFirst unlimited_infoFirst, any_isError_infoFirst ?_⟩
  rw [FileTask.unlimited, Option.bind_some, get?_plantedCache]
  rfl

/-- The statement at work: on what is left of `infoFirst` under the limit 1, and on a file that is met
twice, so that the cache knows it the second time. -/
theorem anyFailed_capped_cases :
    (FileTask.CanTrust strict [(utf8 "a.js", .ok infoFirst)] none ∧
      (∀ r ∈ (strict.capped 1).resultsOf none [(utf8 "a.js", .ok infoFirst)],
        r.error = none ∧ ∀ d ∈ r.diagnostics, d.severity = .info) ∧
      ∃ r ∈ (strict.capped 0).resultsOf none [(utf8 "a.js", .ok infoFirst)],
        ∃ d ∈ r.diagnostics, d.isError = true) ∧
    (FileTask.CanTrust Call.inOrder.options
        [(utf8 "x", .ok Call.inOrder.file), (utf8 "x", .ok Call.inOrder.file)] (some {}) ∧
      (Call.inOrder.options.capped 1).anyFailed (some {})
          [(utf8 "x", .ok Call.inOrder.file), (utf8 "x", .ok Call.inOrder.file)]
        = (Call.inOrder.options.capped 0).anyFailed (some {})
            [(utf8 "x", .ok Call.inOrder.file), (utf8 "x", .ok Call.inOrder.file)]) := by
  have uncached : FileTask.CanTrust strict [(utf8 "a.js", .ok infoFirst)] none := by
    intro c here
    cases here
  have differ : (strict.capped 1).anyFailed none [(utf8 "a.js", .ok infoFirst)]
      ≠ (strict.capped 0).anyFailed none [(utf8 "a.js", .ok infoFirst)] := by
    rw [anyFailed_capped_single, anyFailed_capped_single,
      (any_isError_infoFirst unlimited_infoFirst).1, (any_isError_infoFirst unlimited_infoFirst).2]
    decide
  have cached : FileTask.CanTrust Call.inOrder.options
      [(utf8 "x", .ok Call.inOrder.file), (utf8 "x", .ok Call.inOrder.file)] (some {}) := by
    intro c here
    obtain rfl := Option.some.inj here
    refine ⟨fun _ _ kept => (nomatch kept), fun t member file loaded => ?_⟩
    have same : file = Call.inOrder.file := by
      simp only [List.mem_cons, List.not_mem_nil, or_false, or_self] at member
      rw [member] at loaded
      exact (Except.ok.inj loaded).symm
    have found : Call.inOrder.options.examine Call.inOrder.file = _ :=
      Call.payload_inOrder_swapped.1
    rw [same, found]
    exact Call.decode_notedFor.1
  exact ⟨⟨uncached, ((anyFailed_capped strict none _ uncached (by decide)).2.2 rfl).1 differ⟩, cached,
    (anyFailed_capped Call.inOrder.options _ _ cached (by decide)).2.1 (.inl rfl)⟩

end Options

end Marginalia
