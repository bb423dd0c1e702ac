import Marginalia.Progress.Basic
import Marginalia.Proofs.Extraction.Directory
import Mathlib.Data.List.TakeDrop
import Mathlib.Data.List.TakeWhile

/-!
# Progress under any interleaving

The events about one file come in order, but those about different files mix as they
like (`Interleaving`).  An event changes only the file that it names, and the files of
a run have different names.  So what is known about a file after some events depends
only on those among them that name it (`files_applyAll`), and these are a beginning
of the events that the file has on its own.

Of those only the last one finishes the file (`Tells.eq_of_finished`).  A finished file
therefore has no event to come, and stays as it is.
-/

namespace Marginalia

set_option autoImplicit false

/-! ## Interleavings -/

/-- A list that takes its elements from the heads of streams, until all of them are used up. -/
inductive Interleaving {α : Type} : List (List α) → List α → Prop where
  | nil {streams : List (List α)} (done : ∀ s ∈ streams, s = []) : Interleaving streams []
  | cons {streams : List (List α)} {i : Nat} {x : α} {rest xs : List α}
      (next : streams[i]? = some (x :: rest)) (later : Interleaving (streams.set i rest) xs) :
      Interleaving streams (x :: xs)

namespace Interleaving

variable {α : Type} {streams : List (List α)} {xs : List α}

theorem exists_of_mem {x : α} (mixed : Interleaving streams xs) (member : x ∈ xs) :
    ∃ s ∈ streams, x ∈ s := by
  induction mixed with
  | nil => cases member
  | @cons streams i y rest xs next _ ih =>
    have source := List.mem_of_getElem? next
    rcases List.mem_cons.1 member with rfl | member
    · exact ⟨_, source, List.mem_cons_self⟩
    · obtain ⟨s, inside, member⟩ := ih member
      rcases List.mem_or_eq_of_mem_set inside with inside | rfl
      · exact ⟨s, inside, member⟩
      · exact ⟨_, source, List.mem_cons_of_mem _ member⟩

/-- **A stream can be told from the mixture**: if a property holds of its elements and of no element of
the others, the elements with the property are the stream.  The induction is on the mixture. -/
theorem filter_eq {q : α → Bool} {k : Nat} {own : List α} (mixed : Interleaving streams xs)
    (here : streams[k]? = some own) (ours : ∀ x ∈ own, q x = true)
    (others : ∀ (j : Nat) (s : List α), j ≠ k → streams[j]? = some s → ∀ x ∈ s, q x = false) :
    xs.filter q = own := by
  induction mixed generalizing own with
  | nil done => exact (done own (List.mem_of_getElem? here)).symm
  | @cons streams i x rest xs next _ ih =>
    obtain ⟨bound, -⟩ := List.getElem?_eq_some_iff.1 next
    have others' : ∀ (j : Nat) (s : List α), j ≠ k → (streams.set i rest)[j]? = some s →
        ∀ y ∈ s, q y = false := by
      intro j s other there y member
      by_cases moved : i = j
      · subst moved
        rw [List.getElem?_set_self bound, Option.some.injEq] at there
        subst there
        exact others i _ other next y (List.mem_cons_of_mem _ member)
      · rw [List.getElem?_set_ne moved] at there
        exact others j s other there y member
    by_cases own' : i = k
    · subst own'
      rw [next, Option.some.injEq] at here
      subst here
      rw [List.filter_cons_of_pos (ours x List.mem_cons_self),
        ih (List.getElem?_set_self bound) (fun y member => ours y (List.mem_cons_of_mem _ member))
          others']
    · have foreign := others i _ own' next x List.mem_cons_self
      rw [List.filter_cons_of_neg (by simp [foreign])]
      exact ih (by rw [List.getElem?_set_ne own', here]) ours others'

theorem cons_nil (mixed : Interleaving streams xs) : Interleaving ([] :: streams) xs := by
  induction mixed with
  | nil done => exact .nil (List.forall_mem_cons.2 ⟨rfl, done⟩)
  | @cons streams i x rest xs next _ ih => exact .cons (i := i + 1) next ih

/-- To use up the first stream and then go on with the others is an interleaving. -/
theorem append_cons (mixed : Interleaving streams xs) (s : List α) :
    Interleaving (s :: streams) (s ++ xs) := by
  induction s with
  | nil => exact mixed.cons_nil
  | cons x s ih => exact .cons (i := 0) rfl ih

/-- One stream after the other is an interleaving. -/
theorem flatten (streams : List (List α)) : Interleaving streams streams.flatten := by
  induction streams with
  | nil => exact .nil (fun _ member => by cases member)
  | cons s streams ih => exact ih.append_cons s

end Interleaving

/-! ## The events of one file -/

namespace FileProgress

/-- An event that tells neither of the end of a file nor of an error. -/
def Underway (e : Event) : Prop :=
  e.error = none ∧ ∀ s ∈ FileState.ofStatus? e.stage e.status, s.finished = false

/-- A file that waits, before anything was told about it. -/
def waiting (path : Bytes) : FileProgress := { path }

theorem path_foldl_apply (events : List Event) (f : FileProgress) :
    (events.foldl apply f).path = f.path := by
  induction events generalizing f with
  | nil => rfl
  | cons e events ih => exact ih (f.apply e)

/-- **A step under way does not finish a file.** -/
theorem foldl_underway {events : List Event} {f : FileProgress} (under : ∀ e ∈ events, Underway e)
    (unfinished : f.state.finished = false) :
    (events.foldl apply f).state.finished = false ∧ (events.foldl apply f).error = f.error := by
  induction events generalizing f with
  | nil => exact ⟨unfinished, rfl⟩
  | cons e events ih =>
    obtain ⟨⟨noError, known⟩, under⟩ := List.forall_mem_cons.1 under
    have still : (f.apply e).state.finished = false := by
      rw [apply]
      cases told : FileState.ofStatus? e.stage e.status with
      | none => exact unfinished
      | some s => exact known s told
    obtain ⟨state, error⟩ := ih under still
    refine ⟨state, error.trans ?_⟩
    rw [apply, noError]
    rfl

end FileProgress

namespace FileTask

/-- A file waits until it is its turn. -/
def queued (t : FileTask) : Event := ⟨t.1, .load, .queued, none⟩

/-- The events about a file of a directory. -/
def events [GoParser] (o : Options) (cache : Option Cache) (t : FileTask) : List Event :=
  t.queued :: (o.extractLoaded cache t.1 t.2).events

/-- What is known about a file in the end: it is done, or could not be read for the given reason. -/
def ended : FileTask → FileProgress
  | (path, .error e) => { path, state := .error, error := e.message }
  | (path, .ok _) => { path, state := .done }

/-- The event that ends the work on a file. -/
def lastEvent : FileTask → Event
  | (path, .error e) => ⟨path, .load, .error, some e.message⟩
  | (path, .ok _) => ⟨path, .classify, .done, none⟩

/-- **The events of a file** are steps under way, and then the one that ends the work. -/
theorem events_eq [GoParser] (o : Options) (cache : Option Cache) (t : FileTask) :
    ∃ steps, t.events o cache = steps ++ [t.lastEvent] ∧
      ∀ e ∈ steps, FileProgress.Underway e ∧ e.file = t.1 := by
  have waits : FileProgress.Underway t.queued :=
    ⟨rfl, (by decide : ∀ s ∈ FileState.ofStatus? .load .queued, s.finished = false)⟩
  have scans : FileProgress.Underway ⟨t.1, .scan, .working, none⟩ :=
    ⟨rfl, (by decide : ∀ s ∈ FileState.ofStatus? .scan .working, s.finished = false)⟩
  have classifies : FileProgress.Underway ⟨t.1, .classify, .working, none⟩ :=
    ⟨rfl, (by decide : ∀ s ∈ FileState.ofStatus? .classify .working, s.finished = false)⟩
  obtain ⟨path, e | file⟩ := t
  · exact ⟨[queued _], rfl, by simpa using ⟨waits, rfl⟩⟩
  · rw [events, Options.extractLoaded, Options.extractFile]
    cases cache.bind (·.get? (CacheKey.of file.path file.hash o)) with
    | some p => exact ⟨[queued _], rfl, by simpa using ⟨waits, rfl⟩⟩
    | none =>
      refine ⟨[queued _, ⟨path, .scan, .working, none⟩, ⟨path, .classify, .working, none⟩], rfl, ?_⟩
      simpa using ⟨⟨waits, rfl⟩, scans, classifies⟩

theorem file_of_mem_events [GoParser] {o : Options} {cache : Option Cache} {t : FileTask}
    {e : Event}
    (member : e ∈ t.events o cache) : e.file = t.1 := by
  obtain ⟨steps, eq, under⟩ := t.events_eq o cache
  rw [eq] at member
  rcases List.mem_append.1 member with member | member
  · exact (under e member).2
  · rw [List.mem_singleton.1 member]
    obtain ⟨path, _ | _⟩ := t <;> rfl

/-- All events of a file together end the work on it. -/
theorem foldl_events [GoParser] (o : Options) (cache : Option Cache) (t : FileTask) :
    (t.events o cache).foldl FileProgress.apply (.waiting t.1) = t.ended := by
  obtain ⟨steps, eq, under⟩ := t.events_eq o cache
  obtain ⟨-, error⟩ := FileProgress.foldl_underway (f := .waiting t.1)
    (fun e member => (under e member).1) rfl
  have path := FileProgress.path_foldl_apply steps (.waiting t.1)
  rw [eq, List.foldl_append, List.foldl_cons, List.foldl_nil, FileProgress.apply, path, error]
  obtain ⟨path, _ | _⟩ := t <;> rfl

/-- **Only the last event finishes a file.** -/
theorem eq_of_finished [GoParser] {o : Options} {cache : Option Cache} {t : FileTask}
    {some : List Event}
    (first : some <+: t.events o cache)
    (finished : (some.foldl FileProgress.apply (.waiting t.1)).state.finished = true) :
    some = t.events o cache := by
  obtain ⟨steps, eq, under⟩ := t.events_eq o cache
  rw [eq] at first ⊢
  rcases List.prefix_concat_iff.1 first with all | first
  · exact all
  · obtain ⟨unfinished, -⟩ := FileProgress.foldl_underway (f := .waiting t.1)
      (fun e member => (under e (first.subset member)).1) rfl
    rw [unfinished] at finished
    cases finished

end FileTask

/-! ## Files with different paths -/

namespace Progress

variable {files : List FileProgress} {p : Progress} {e : Event} {events : List Event}

/-- Among files with different paths the last one with a path is the only one. -/
theorem updateLast_eq_map (distinct : (files.map FileProgress.path).Nodup) (path : Bytes)
    (f : FileProgress → FileProgress) :
    updateLast path f files = files.map fun x => if path = x.path then f x else x := by
  have keep : ∀ l : List FileProgress, (∀ x ∈ l, path ≠ x.path) →
      l.map (fun x => if path = x.path then f x else x) = l := fun l other =>
    (List.map_congr_left fun x member => if_neg (other x member)).trans (List.map_id' l)
  have whole := List.takeWhile_append_dropWhile (p := fun x : FileProgress => decide (x.path ≠ path))
    (l := files.reverse)
  have later : ∀ x ∈ files.reverse.takeWhile fun x => decide (x.path ≠ path), path ≠ x.path := by
    intro x member
    have different := List.mem_takeWhile_imp (p := fun x : FileProgress => decide (x.path ≠ path)) member
    exact (of_decide_eq_true different).symm
  rw [updateLast, List.span_eq_takeWhile_dropWhile]
  generalize files.reverse.takeWhile (fun x => decide (x.path ≠ path)) = after at whole later
  cases rest : files.reverse.dropWhile fun x => decide (x.path ≠ path) with
  | nil =>
    rw [rest, List.append_nil] at whole
    refine (keep files fun x member => later x ?_).symm
    rwa [whole, List.mem_reverse]
  | cons x earlier =>
    have same : x.path = path := by
      have head := List.head?_dropWhile_not (fun x : FileProgress => decide (x.path ≠ path)) files.reverse
      rw [rest] at head
      simpa using head
    have split : files = earlier.reverse ++ x :: after.reverse := by
      rw [← List.reverse_reverse files, ← whole, rest]
      simp
    have others : ∀ y ∈ earlier.reverse, path ≠ y.path := by
      intro y member
      rw [split, List.map_append, List.map_cons, List.nodup_append] at distinct
      rw [← same]
      exact (distinct.2.2 _ (List.mem_map_of_mem member) _ List.mem_cons_self).symm
    dsimp only
    rw [split, List.map_append, List.map_cons, keep _ others, if_pos same.symm,
      keep _ fun y member => later y (List.mem_reverse.1 member)]

/-- **One event** changes the file that it names and no other. -/
theorem files_apply (distinct : (p.files.map FileProgress.path).Nodup) (named : e.file ≠ []) :
    (p.apply e).files = p.files.map fun f => if e.file = f.path then f.apply e else f := by
  have about : e.file.isEmpty = false := List.isEmpty_eq_false_iff.2 named
  rw [apply, about]
  exact updateLast_eq_map distinct e.file _

/-- What the events make of the progress, one after the other. -/
def applyAll (p : Progress) (events : List Event) : Progress := events.foldl apply p

/-- **A run of events** leaves each file as the events that name it leave it. -/
theorem files_applyAll (distinct : (p.files.map FileProgress.path).Nodup)
    (named : ∀ e ∈ events, e.file ≠ []) :
    (p.applyAll events).files = p.files.map fun f =>
      (events.filter fun e => e.file = f.path).foldl FileProgress.apply f := by
  induction events generalizing p with
  | nil => exact (List.map_id' _).symm
  | cons e events ih =>
    obtain ⟨about, named⟩ := List.forall_mem_cons.1 named
    have files := files_apply distinct about
    have paths : (p.apply e).files.map FileProgress.path = p.files.map FileProgress.path := by
      rw [files, List.map_map]
      refine List.map_congr_left fun f _ => ?_
      rw [Function.comp_apply]
      split <;> rfl
    rw [← paths] at distinct
    have later := ih distinct named
    rw [files, List.map_map] at later
    refine later.trans (List.map_congr_left fun f _ => ?_)
    rw [Function.comp_apply, List.filter_cons]
    by_cases own : e.file = f.path
    · rw [if_pos own, if_pos (decide_eq_true own)]
      rfl
    · rw [if_neg own, if_neg (by simpa using own)]

theorem files_applyAll_start (title : Bytes) {tasks : List FileTask}
    (distinct : (tasks.map Prod.fst).Nodup) (named : ∀ e ∈ events, e.file ≠ []) :
    ((start title (tasks.map Prod.fst)).applyAll events).files = tasks.map fun t =>
      (events.filter fun e => e.file = t.1).foldl FileProgress.apply (.waiting t.1) := by
  have waiting : (start title (tasks.map Prod.fst)).files
      = tasks.map fun t => FileProgress.waiting t.1 := by
    rw [start, List.map_map]
    rfl
  have paths : (start title (tasks.map Prod.fst)).files.map FileProgress.path
      = tasks.map Prod.fst := by
    rw [waiting, List.map_map]
    rfl
  rw [← paths] at distinct
  rw [files_applyAll distinct named, waiting, List.map_map]
  rfl

end Progress

/-! ## Runs -/

namespace FileTask

variable {o : Options} {tasks : List FileTask} {t : FileTask} {mixed : List Event}
  {seen : FileTask → Option Cache}

/-- What a mixture tells about a file is what is told about the file on its own. -/
theorem filter_interleaving {tell : FileTask → List Event}
    (about : ∀ t, ∀ e ∈ tell t, e.file = t.1) (distinct : (tasks.map Prod.fst).Nodup)
    (interleaved : Interleaving (tasks.map tell) mixed) (member : t ∈ tasks) :
    mixed.filter (fun e => e.file = t.1) = tell t := by
  obtain ⟨k, task⟩ := List.getElem?_of_mem member
  have path : (tasks.map Prod.fst)[k]? = some t.1 := by
    rw [List.getElem?_map, task]
    rfl
  obtain ⟨bound, -⟩ := List.getElem?_eq_some_iff.1 path
  refine interleaved.filter_eq (k := k) ?_ ?_ ?_
  · rw [List.getElem?_map, task]
    rfl
  · exact fun e told => decide_eq_true (about t e told)
  · intro j stream other there e told
    rw [List.getElem?_map] at there
    obtain ⟨t', task', rfl⟩ := Option.map_eq_some_iff.1 there
    refine decide_eq_false fun same => other ?_
    have path' : (tasks.map Prod.fst)[j]? = some t.1 := by
      rw [List.getElem?_map, task', ← same, about t' e told]
      rfl
    exact ((List.getElem?_inj bound distinct).1 (path.trans path'.symm)).symm

theorem file_of_mem_extractLoaded [GoParser] {cache : Option Cache} {e : Event}
    (member : e ∈ (o.extractLoaded cache t.1 t.2).events) : e.file = t.1 :=
  file_of_mem_events (o := o) (List.mem_cons_of_mem t.queued member)

/-- All files wait, and then they are told about in any order. -/
theorem filter_queued_append [GoParser] (distinct : (tasks.map Prod.fst).Nodup)
    (interleaved :
      Interleaving (tasks.map fun t => (o.extractLoaded (seen t) t.1 t.2).events) mixed)
    (member : t ∈ tasks) :
    (tasks.map queued ++ mixed).filter (fun e => e.file = t.1) = t.events o (seen t) := by
  have queue : (tasks.map fun t => [t.queued]).flatten = tasks.map queued := by
    rw [← List.flatMap_def, List.map_eq_flatMap]
  have waits := Interleaving.flatten (tasks.map fun t => [t.queued])
  rw [queue] at waits
  have single : ∀ t : FileTask, ∀ e ∈ [t.queued], e.file = t.1 := by
    intro t e told
    rw [List.mem_singleton.1 told, queued]
  rw [List.filter_append, filter_interleaving single distinct waits member,
    filter_interleaving (fun _ _ => file_of_mem_extractLoaded) distinct interleaved member]
  rfl

theorem file_ne_nil [GoParser] (named : ∀ t ∈ tasks, t.1 ≠ [])
    (interleaved :
      Interleaving (tasks.map fun t => (o.extractLoaded (seen t) t.1 t.2).events) mixed) :
    ∀ e ∈ tasks.map queued ++ mixed, e.file ≠ [] := by
  intro e member
  rcases List.mem_append.1 member with member | member
  · obtain ⟨t, task, rfl⟩ := List.mem_map.1 member
    exact named t task
  · obtain ⟨stream, source, told⟩ := interleaved.exists_of_mem member
    obtain ⟨t, task, rfl⟩ := List.mem_map.1 source
    rw [file_of_mem_extractLoaded told]
    exact named t task

/-- **A finished file stays as it is**: no event about it is left. -/
theorem foldl_eq_of_finished [GoParser] {cache : Option Cache} {events first second : List Event}
    (own : events.filter (fun e => e.file = t.1) = t.events o cache)
    (earlier : first <+: second) (later : second <+: events)
    (finished : ((first.filter fun e => e.file = t.1).foldl FileProgress.apply
      (.waiting t.1)).state.finished = true) :
    (second.filter fun e => e.file = t.1) = first.filter fun e => e.file = t.1 := by
  have between := earlier.filter fun e => decide (e.file = t.1)
  have within := later.filter fun e => decide (e.file = t.1)
  rw [own] at within
  have all := eq_of_finished (between.trans within) finished
  rw [← all] at within
  exact within.eq_of_length (Nat.le_antisymm within.length_le between.length_le)

end FileTask

namespace Progress

variable {o : Options} {tasks : List FileTask} {mixed : List Event}
  {seen : FileTask → Option Cache}

/-- **Every complete run ends alike**, however its events mix. -/
theorem files_of_interleaving [GoParser] (title : Bytes) (distinct : (tasks.map Prod.fst).Nodup)
    (named : ∀ t ∈ tasks, t.1 ≠ [])
    (interleaved :
      Interleaving (tasks.map fun t => (o.extractLoaded (seen t) t.1 t.2).events) mixed) :
    ((start title (tasks.map Prod.fst)).applyAll (tasks.map FileTask.queued ++ mixed)).files
      = tasks.map FileTask.ended := by
  rw [files_applyAll_start title distinct (FileTask.file_ne_nil named interleaved)]
  refine List.map_congr_left fun t member => ?_
  rw [FileTask.filter_queued_append distinct interleaved member, FileTask.foldl_events]

/-- **Progress comes to its end under every interleaving, and does not go back.**  All files of a run are
told to wait, and then their events mix as they like; each file may see the cache in a state of its own.
In the end every file is finished: those that could not be read have the reason, and all others are done.
On the way a finished file stays as it is, so the number of finished files never goes down.

A file has a path, since an event without one is about the run as a whole; the files of a directory
always do. -/
theorem applyAll_interleaving [GoParser] (o : Options) (title : Bytes) {tasks : List FileTask}
    (distinct : (tasks.map Prod.fst).Nodup) (named : ∀ t ∈ tasks, t.1 ≠ [])
    (seen : FileTask → Option Cache) {mixed : List Event}
    (interleaved :
      Interleaving (tasks.map fun t => (o.extractLoaded (seen t) t.1 t.2).events) mixed) :
    let events := tasks.map FileTask.queued ++ mixed
    let after := (start title (tasks.map Prod.fst)).applyAll
    (after events).files = tasks.map FileTask.ended ∧
    (after events).finished = tasks.length ∧
    (∀ first second, first <+: second → second <+: events →
      (∀ (k : Nat) (f : FileProgress), (after first).files[k]? = some f →
        f.state.finished = true → (after second).files[k]? = some f) ∧
      (after first).finished ≤ (after second).finished) ∧
    ∀ (disk : Disk) (dir : Bytes) (paths : List Bytes),
      disk.listFiles dir o.extensions = .ok paths → [] ∉ paths := by
  intro events after
  have ended : (after events).files = tasks.map FileTask.ended :=
    files_of_interleaving title distinct named interleaved
  have files : ∀ part, part <+: events → (after part).files = tasks.map fun t =>
      (part.filter fun e => e.file = t.1).foldl FileProgress.apply (.waiting t.1) :=
    fun part isPart => files_applyAll_start title distinct fun e member =>
      FileTask.file_ne_nil named interleaved e (isPart.subset member)
  have own := fun t member =>
    FileTask.filter_queued_append (t := t) distinct interleaved member
  refine ⟨ended, ?_, ?_, ?_⟩
  · rw [finished, ended, List.countP_map, List.countP_eq_length]
    rintro ⟨path, _ | _⟩ - <;> rfl
  · intro first second earlier later
    have before := files first (earlier.trans later)
    have afterwards := files second later
    constructor
    · intro k f here done
      rw [before, List.getElem?_map] at here
      obtain ⟨t, task, rfl⟩ := Option.map_eq_some_iff.1 here
      have same := FileTask.foldl_eq_of_finished (own t (List.mem_of_getElem? task)) earlier later done
      rw [afterwards, List.getElem?_map, task, Option.map_some, same]
    · rw [finished, finished, before, afterwards, List.countP_map, List.countP_map]
      refine List.countP_mono_left fun t member done => ?_
      have same := FileTask.foldl_eq_of_finished (own t member) earlier later done
      rw [Function.comp_apply, same]
      exact done
  · intro disk dir paths listed member
    exact Disk.ne_nil_of_mem_listFiles listed member rfl

/-- A file that is told about while another one cannot be read. -/
def pair : List FileTask :=
  [(utf8 "a", .ok { id := 0, path := utf8 "a", content := utf8 "// note", flags := .virtual }),
   (utf8 "b", .error ⟨utf8 "open", utf8 "b", .notFound⟩)]

/-- The error comes between the first and the second step of the other file. -/
def pairMixed : List Event :=
  [⟨utf8 "a", .scan, .working, none⟩,
   ⟨utf8 "b", .load, .error, some (utf8 "open b: no such file or directory")⟩,
   ⟨utf8 "a", .classify, .working, none⟩,
   ⟨utf8 "a", .classify, .done, none⟩]

theorem interleaving_pairMixed :
    Interleaving (pair.map fun t => (({} : Options).extractLoaded none t.1 t.2).events)
      pairMixed :=
  .cons (i := 0) rfl <| .cons (i := 1) rfl <| .cons (i := 0) rfl <| .cons (i := 0) rfl <|
    .nil (by decide)

/-- In the end the first file is done and the second one has the reason; after two events of the mixture
one file was finished. -/
theorem applyAll_pairMixed :
    (pair.map Prod.fst).Nodup ∧ (∀ t ∈ pair, t.1 ≠ []) ∧
    Interleaving (pair.map fun t => (({} : Options).extractLoaded none t.1 t.2).events)
      pairMixed ∧
    ((start [] (pair.map Prod.fst)).applyAll (pair.map FileTask.queued ++ pairMixed)).files
      = [{ path := utf8 "a", state := .done },
         { path := utf8 "b", state := .error,
           error := utf8 "open b: no such file or directory" }] ∧
    ((start [] (pair.map Prod.fst)).applyAll
        (pair.map FileTask.queued ++ pairMixed.take 2)).finished
      ≤ ((start [] (pair.map Prod.fst)).applyAll (pair.map FileTask.queued ++ pairMixed)).finished := by
  have distinct : (pair.map Prod.fst).Nodup := by decide
  have named : ∀ t ∈ pair, t.1 ≠ [] := by
    have paths : ∀ path ∈ pair.map Prod.fst, path ≠ [] := by decide
    exact fun t member => paths t.1 (List.mem_map_of_mem member)
  obtain ⟨ended, -, back, -⟩ := applyAll_interleaving {} [] distinct named (fun _ => none)
    interleaving_pairMixed
  have part : pair.map FileTask.queued ++ pairMixed.take 2 <+: pair.map FileTask.queued ++ pairMixed :=
    List.prefix_append_right_inj _ |>.2 (List.take_prefix 2 pairMixed)
  exact ⟨distinct, named, interleaving_pairMixed, ended,
    (back _ _ part (List.prefix_refl _)).2⟩

end Progress

/-! ## One file after the other -/

/-- What is told of files that are worked on one after the other is told of each of them alone, with the
cache as it finds it. -/
theorem Options.exists_seen [GoParser] (o : Options) {tasks : List FileTask}
    (distinct : (tasks.map Prod.fst).Nodup) (cache : Option Cache) :
    ∃ seen : FileTask → Option Cache, (o.extractAll cache tasks).1.map Outcome.events
      = tasks.map fun t => (o.extractLoaded (seen t) t.1 t.2).events := by
  induction tasks generalizing cache with
  | nil => exact ⟨fun _ => cache, rfl⟩
  | cons t tasks ih =>
    obtain ⟨fresh, distinct⟩ := List.nodup_cons.1 distinct
    obtain ⟨seen, told⟩ := ih distinct (o.extractLoaded cache t.1 t.2).cache
    refine ⟨fun t' => if t'.1 = t.1 then cache else seen t', ?_⟩
    have later : tasks.map (fun t => (o.extractLoaded (seen t) t.1 t.2).events) = tasks.map fun t' =>
        (o.extractLoaded (if t'.1 = t.1 then cache else seen t') t'.1 t'.2).events := by
      refine List.map_congr_left fun t' member => ?_
      have other : t'.1 ≠ t.1 := fun same => fresh (same ▸ List.mem_map_of_mem member)
      rw [if_neg other]
    rw [extractAll, List.map_cons, told, later, List.map_cons]
    dsimp only
    rw [if_pos rfl]

/-- The events of a directory end the work on all of its files. -/
theorem Options.files_extractDirectory [GoParser] {o : Options} {cache : Option Cache} {disk : Disk}
    {dir : Bytes} {paths : List Bytes} {outcome : DirectoryOutcome} (tree : disk.IsTree)
    (listed : disk.listFiles dir o.extensions = .ok paths)
    (ran : o.extractDirectory false cache disk dir = .ok outcome) (title : Bytes) :
    ((Progress.start title paths).applyAll outcome.events).files
      = (disk.tasks dir paths).map FileTask.ended := by
  have fst : (disk.tasks dir paths).map Prod.fst = paths := FileSet.map_fst_loadAll _ disk paths
  have distinct : ((disk.tasks dir paths).map Prod.fst).Nodup := by
    rw [fst]
    exact (tree.listFiles_increasing listed).2.of_map
  have named : ∀ t ∈ disk.tasks dir paths, t.1 ≠ [] := fun t member =>
    Disk.ne_nil_of_mem_listFiles listed (fst ▸ List.mem_map_of_mem member)
  obtain ⟨seen, told⟩ := o.exists_seen distinct cache
  have inTurn := Interleaving.flatten
    ((o.extractAll cache (disk.tasks dir paths)).1.map Outcome.events)
  have ended := Progress.files_of_interleaving title distinct named (told ▸ inTurn)
  have events : outcome.events = (disk.tasks dir paths).map FileTask.queued
      ++ ((o.extractAll cache (disk.tasks dir paths)).1.map Outcome.events).flatten := by
    have queue : (disk.tasks dir paths).map FileTask.queued
        = paths.map fun path => ⟨path, .load, .queued, none⟩ := by
      have queue : ((disk.tasks dir paths).map Prod.fst).map
          (fun path => (⟨path, .load, .queued, none⟩ : Event))
          = (disk.tasks dir paths).map FileTask.queued := List.map_map
      rw [← queue, fst]
    rw [extractDirectory, listed] at ran
    rw [queue, ← List.flatMap_def, ← Except.ok.inj ran]
    rfl
  rw [fst] at ended
  rw [events, told]
  exact ended

end Marginalia
