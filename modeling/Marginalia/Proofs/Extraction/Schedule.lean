import Marginalia.Extraction.Directory
import Marginalia.Proofs.Cache.History

/-!
# Files of a directory that are worked on at the same time

The files of a directory are read first.  After that they share nothing but the
cache: a task looks into the cache once and, if it finds nothing there, works on
its own and at last keeps what it found out and delivers its result.  Any number
of tasks may be at work, and between the two moments at which a task touches the
cache other tasks may do the same.

A run is therefore a sequence of such moments, given by a list that says whose
turn it is (`DirectoryRun.after`); a task that has nothing left to do lets its turn
pass.  A limit on the number of tasks at work only rules out some of the lists.

Tasks do not interfere as long as different tasks have different keys
(`KeysApart`).  So every task delivers what it would deliver on its own
(`results_of_complete`), and to work on one file after the other is one of the ways
to take turns (`after_inTurn`).
-/

namespace Marginalia

set_option autoImplicit false

/-! ## Turns -/

/-- A file of a directory that is to be worked on: its path, and what reading it gave. -/
abbrev FileTask := Bytes × Except DiskError SourceFile

/-- How far a task is. -/
inductive TaskState where
  | waiting
  /-- the cache did not help; the result is delivered once it is kept -/
  | working (result : FileResult)
  | finished (result : FileResult)

namespace TaskState

/-- The result that was delivered. -/
def result? : TaskState → Option FileResult
  | .finished r => some r
  | _ => none

/-- How many turns are left to take. -/
def turnsLeft : TaskState → Nat
  | .waiting => 2
  | .working _ => 1
  | .finished _ => 0

end TaskState

/-- The key of a file. -/
def SourceFile.key (o : Options) (file : SourceFile) : CacheKey := CacheKey.of file.path file.hash o

namespace FileTask

/-- Is nothing left to find out, because the file could not be read or is known to the cache? -/
def settled (o : Options) (cache : Option Cache) : FileTask → Bool
  | (_, .error _) => true
  | (_, .ok file) => (cache.bind (·.get? (file.key o))).isSome

/-- The cache after a task kept what it found out. -/
def keep [GoParser] (o : Options) (cache : Option Cache) : FileTask → Option Cache
  | (_, .error _) => cache
  | (_, .ok file) => cache.map (·.put (file.key o) (o.examine file))

/-- One turn of a task: how far it is then, and the cache. -/
def turn [GoParser] (o : Options) (cache : Option Cache) (t : FileTask) :
    TaskState → TaskState × Option Cache
  | .waiting =>
    let result := (o.extractLoaded cache t.1 t.2).result
    (if t.settled o cache then .finished result else .working result, cache)
  | .working result => (.finished result, t.keep o cache)
  | .finished result => (.finished result, cache)

/-- **Two turns in a row** are the work on one file. -/
theorem turn_turn [GoParser] (o : Options) (cache : Option Cache) (t : FileTask) :
    t.turn o (t.turn o cache .waiting).2 (t.turn o cache .waiting).1
      = (.finished (o.extractLoaded cache t.1 t.2).result,
          (o.extractLoaded cache t.1 t.2).cache) := by
  obtain ⟨path, e | file⟩ := t
  · rfl
  · have key : CacheKey.of file.path file.hash o = file.key o := rfl
    simp only [turn, settled, keep, Options.extractLoaded, Options.extractFile, key]
    cases cache.bind (·.get? (file.key o)) with
    | some p => rfl
    | none => rfl

end FileTask

/-- The tasks of a directory and the cache that they share. -/
structure DirectoryRun where
  cache : Option Cache
  states : List TaskState

namespace DirectoryRun

/-- The results that were delivered, by place. -/
def results (run : DirectoryRun) : List (Option FileResult) := run.states.map TaskState.result?

/-- The task at a place takes a turn. -/
def step [GoParser] (o : Options) (tasks : List FileTask) (run : DirectoryRun) (i : Nat) :
    DirectoryRun :=
  match tasks[i]?, run.states[i]? with
  | some t, some state =>
    { cache := (t.turn o run.cache state).2
      states := run.states.set i (t.turn o run.cache state).1 }
  | _, _ => run

/-- A run in which no task has had a turn. -/
def start (tasks : List FileTask) (cache : Option Cache) : DirectoryRun :=
  ⟨cache, tasks.map fun _ => .waiting⟩

/-- The run after turns were taken in the given order. -/
def after [GoParser] (o : Options) (tasks : List FileTask) (cache : Option Cache)
    (turns : List Nat) :
    DirectoryRun :=
  turns.foldl (step o tasks) (start tasks cache)

variable {o : Options} {tasks : List FileTask} {cache : Option Cache} {run : DirectoryRun}
  {i j : Nat} {t : FileTask} {state : TaskState}

theorem step_eq [GoParser] (task : tasks[i]? = some t) (here : run.states[i]? = some state) :
    run.step o tasks i =
      { cache := (t.turn o run.cache state).2
        states := run.states.set i (t.turn o run.cache state).1 } := by
  rw [step, task, here]

/-- What a turn can do: nothing where there is no task, or what the task does. -/
theorem step_cases [GoParser] (o : Options) (tasks : List FileTask) (run : DirectoryRun) (i : Nat) :
    run.step o tasks i = run ∨ ∃ t state, tasks[i]? = some t ∧ run.states[i]? = some state ∧
      run.step o tasks i =
        { cache := (t.turn o run.cache state).2
          states := run.states.set i (t.turn o run.cache state).1 } := by
  cases task : tasks[i]? with
  | none => exact .inl (by rw [step, task])
  | some t =>
    cases here : run.states[i]? with
    | none => exact .inl (by rw [step, task, here])
    | some state => exact .inr ⟨t, state, rfl, rfl, step_eq task here⟩

/-! ## Every task comes to its end -/

/-- The turns that the task at a place has left. -/
def turnsLeft (run : DirectoryRun) (i : Nat) : Nat :=
  (run.states[i]?.map TaskState.turnsLeft).getD 0

theorem turnsLeft_turn [GoParser] (o : Options) (cache : Option Cache) (t : FileTask)
    (state : TaskState) :
    (t.turn o cache state).1.turnsLeft ≤ state.turnsLeft - 1 := by
  cases state with
  | waiting =>
    rw [FileTask.turn]
    dsimp only
    split <;> simp [TaskState.turnsLeft]
  | working r => simp [FileTask.turn, TaskState.turnsLeft]
  | finished r => simp [FileTask.turn, TaskState.turnsLeft]

/-- A turn of another task does not change how far a task is. -/
theorem getElem?_states_step [GoParser] (other : j ≠ i) (o : Options) (tasks : List FileTask)
    (run : DirectoryRun) : (run.step o tasks j).states[i]? = run.states[i]? := by
  rcases step_cases o tasks run j with same | ⟨_, _, _, _, stepped⟩
  · rw [same]
  · rw [stepped, List.getElem?_set_ne other]

theorem turnsLeft_step [GoParser] (task : tasks[i]? = some t) (run : DirectoryRun) (j : Nat) :
    (run.step o tasks j).turnsLeft i ≤ run.turnsLeft i - if j = i then 1 else 0 := by
  by_cases own : j = i
  · subst own
    cases here : run.states[j]? with
    | none => simp [step, task, here, turnsLeft]
    | some state =>
      have left := turnsLeft_turn o run.cache t state
      rw [step_eq task here, if_pos rfl]
      simpa [turnsLeft, here, List.getElem?_set_self'] using left
  · rw [turnsLeft, turnsLeft, getElem?_states_step own, if_neg own]
    exact Nat.le_refl _

/-- **Turns run out**: each turn of a task is one less that it has left. -/
theorem turnsLeft_foldl [GoParser] (task : tasks[i]? = some t) (turns : List Nat)
    (run : DirectoryRun) :
    (turns.foldl (step o tasks) run).turnsLeft i ≤ run.turnsLeft i - turns.count i := by
  induction turns generalizing run with
  | nil => exact Nat.le_refl _
  | cons j turns ih =>
    have first := turnsLeft_step (o := o) task run j
    have rest := ih (run.step o tasks j)
    rw [List.foldl_cons, List.count_cons]
    by_cases own : j = i
    · rw [if_pos own] at first
      rw [if_pos (beq_iff_eq.2 own)]
      omega
    · rw [if_neg own] at first
      rw [if_neg (by simpa using own)]
      omega

/-! ## Tasks do not interfere -/

/-- Different tasks work on files with different keys. -/
def KeysApart (o : Options) (tasks : List FileTask) : Prop :=
  ∀ (i j : Nat) (path path' : Bytes) (file file' : SourceFile), tasks[i]? = some (path, .ok file) →
    tasks[j]? = some (path', .ok file') → file.key o = file'.key o → i = j

/-- Two caches tell a task the same. -/
def SameView (o : Options) (c c' : Option Cache) (t : FileTask) : Prop :=
  c.isSome = c'.isSome ∧
  ∀ file, t.2 = .ok file → c.bind (·.get? (file.key o)) = c'.bind (·.get? (file.key o))

/-- A task that is told the same delivers the same. -/
theorem result_congr [GoParser] {c c' : Option Cache} (same : SameView o c c' t) :
    (o.extractLoaded c t.1 t.2).result = (o.extractLoaded c' t.1 t.2).result := by
  obtain ⟨path, e | file⟩ := t
  · rfl
  · have found := same.2 file rfl
    rw [SourceFile.key] at found
    simp only [Options.extractLoaded, Options.extractFile, same.1, found]
    cases c'.bind (·.get? (CacheKey.of file.path file.hash o)) with
    | some p => rfl
    | none => rfl

theorem isSome_turn [GoParser] (o : Options) (cache : Option Cache) (t : FileTask)
    (state : TaskState) :
    (t.turn o cache state).2.isSome = cache.isSome := by
  obtain ⟨path, e | file⟩ := t <;> cases state <;> simp [FileTask.turn, FileTask.keep]

/-- What a task does to the cache is not seen by a task with another key. -/
theorem get?_turn [GoParser] {file : SourceFile}
    (apart : ∀ file', t.2 = .ok file' → file'.key o ≠ file.key o)
    (cache : Option Cache) (state : TaskState) :
    (t.turn o cache state).2.bind (·.get? (file.key o)) = cache.bind (·.get? (file.key o)) := by
  cases state with
  | waiting => rfl
  | finished r => rfl
  | working r =>
    obtain ⟨path, e | file'⟩ := t
    · rfl
    · cases cache with
      | none => rfl
      | some c =>
        have other := apart file' rfl
        simp only [FileTask.turn, FileTask.keep, Option.map_some, Option.bind_some, Cache.get?,
          Cache.bytes?_put, if_neg other]

/-- How far a task is, and what it will deliver: a task that waits still sees the cache as it was at the
start, and a task that has looked has the result that it would have on its own. -/
def Sound [GoParser] (o : Options) (first cache : Option Cache) (t : FileTask) : TaskState → Prop
  | .waiting => SameView o cache first t
  | .working r => r = (o.extractLoaded first t.1 t.2).result
  | .finished r => r = (o.extractLoaded first t.1 t.2).result

/-- Every task is sound, and there are no states beside those of the tasks. -/
structure Invariant [GoParser] (o : Options) (tasks : List FileTask) (first : Option Cache)
    (run : DirectoryRun) : Prop where
  length : run.states.length = tasks.length
  sound : ∀ (i : Nat) (t : FileTask), tasks[i]? = some t →
    ∃ state, run.states[i]? = some state ∧ Sound o first run.cache t state

theorem Invariant.start [GoParser] (o : Options) (tasks : List FileTask) (cache : Option Cache) :
    Invariant o tasks cache (start tasks cache) where
  length := List.length_map _
  sound i t task :=
    ⟨.waiting, by rw [DirectoryRun.start, List.getElem?_map, task]; rfl, rfl, fun _ _ => rfl⟩

/-- A turn makes a sound task sound. -/
theorem Sound.turn [GoParser] {first : Option Cache} (sound : Sound o first cache t state) :
    Sound o first (t.turn o cache state).2 t (t.turn o cache state).1 := by
  cases state with
  | waiting =>
    have result := result_congr sound
    rw [FileTask.turn]
    dsimp only
    split
    · exact result
    · exact result
  | working r => exact sound
  | finished r => exact sound

/-- A turn of another task leaves a sound task sound. -/
theorem Sound.other [GoParser] {first : Option Cache} {t' : FileTask} {state' : TaskState}
    (apart : ∀ file file', t.2 = .ok file → t'.2 = .ok file' → file'.key o ≠ file.key o)
    (sound : Sound o first cache t state) :
    Sound o first (t'.turn o cache state').2 t state := by
  cases state with
  | waiting =>
    refine ⟨(isSome_turn o cache t' state').trans sound.1, fun file loaded => ?_⟩
    rw [get?_turn fun file' loaded' => apart file file' loaded loaded']
    exact sound.2 file loaded
  | working r => exact sound
  | finished r => exact sound

/-- **One turn keeps every task sound.** -/
theorem Invariant.step [GoParser] {first : Option Cache} (apart : KeysApart o tasks)
    (inv : Invariant o tasks first run) (j : Nat) : Invariant o tasks first (run.step o tasks j) := by
  rcases step_cases o tasks run j with same | ⟨t', state', task', here', stepped⟩
  · rwa [same]
  · rw [stepped]
    refine ⟨(List.length_set).trans inv.length, fun i t task => ?_⟩
    obtain ⟨state, here, sound⟩ := inv.sound i t task
    by_cases own : j = i
    · subst own
      rw [task', Option.some.injEq] at task
      rw [here', Option.some.injEq] at here
      subst task here
      obtain ⟨bound, -⟩ := List.getElem?_eq_some_iff.1 here'
      exact ⟨_, List.getElem?_set_self bound, sound.turn⟩
    · refine ⟨state, by rw [List.getElem?_set_ne own, here], sound.other ?_⟩
      intro file file' loaded loaded' same
      obtain ⟨path, read⟩ := t
      obtain ⟨path', read'⟩ := t'
      subst loaded loaded'
      exact own (apart j i _ _ _ _ task' task same)

theorem Invariant.foldl [GoParser] {first : Option Cache} (apart : KeysApart o tasks)
    (turns : List Nat)
    (inv : Invariant o tasks first run) :
    Invariant o tasks first (turns.foldl (DirectoryRun.step o tasks) run) := by
  induction turns generalizing run with
  | nil => exact inv
  | cons j turns ih => exact ih (inv.step apart j)

/-- **Every complete run delivers the same**: where each task has its two turns, it delivers what it
would deliver on its own from the cache as it was at the start. -/
theorem results_of_complete [GoParser] (apart : KeysApart o tasks) {turns : List Nat}
    (complete : ∀ i < tasks.length, 2 ≤ turns.count i) :
    (after o tasks cache turns).results
      = tasks.map fun t => some (o.extractLoaded cache t.1 t.2).result := by
  have inv : Invariant o tasks cache (after o tasks cache turns) :=
    (Invariant.start o tasks cache).foldl apart turns
  refine List.ext_getElem? fun i => ?_
  rw [results, List.getElem?_map, List.getElem?_map]
  cases task : tasks[i]? with
  | none =>
    rw [List.getElem?_eq_none_iff, ← inv.length] at task
    rw [List.getElem?_eq_none_iff.2 task]
    rfl
  | some t =>
    obtain ⟨state, here, sound⟩ := inv.sound i t task
    obtain ⟨bound, -⟩ := List.getElem?_eq_some_iff.1 task
    have left : state.turnsLeft = 0 := by
      have left := turnsLeft_foldl (o := o) task turns (start tasks cache)
      have first : (start tasks cache).turnsLeft i = 2 := by
        rw [turnsLeft, start, List.getElem?_map, task]
        rfl
      have last : (after o tasks cache turns).turnsLeft i = state.turnsLeft := by
        rw [turnsLeft, here]
        rfl
      rw [after] at last
      have enough := complete i bound
      omega
    rw [here, Option.map_some, Option.map_some]
    cases state with
    | waiting => cases left
    | working r => cases left
    | finished r => rw [TaskState.result?, sound]

/-! ## One file after the other -/

/-- Each of so many tasks takes its two turns, one task after the other. -/
def inTurn (n : Nat) : List Nat := (List.range n).flatMap fun i => [i, i]

theorem two_le_count_inTurn {n : Nat} (bound : i < n) : 2 ≤ (inTurn n).count i := by
  have member := List.mem_range.2 bound
  obtain ⟨before, later, split⟩ := List.append_of_mem member
  rw [inTurn, split, List.flatMap_append, List.flatMap_cons, List.count_append, List.count_append]
  have own : [i, i].count i = 2 := by simp
  omega

theorem step_step [GoParser] (task : tasks[i]? = some t) (here : run.states[i]? = some .waiting) :
    (run.step o tasks i).step o tasks i =
      { cache := (o.extractLoaded run.cache t.1 t.2).cache
        states := run.states.set i (.finished (o.extractLoaded run.cache t.1 t.2).result) } := by
  obtain ⟨bound, -⟩ := List.getElem?_eq_some_iff.1 here
  have both := FileTask.turn_turn o run.cache t
  rw [step_eq task here, step_eq task (List.getElem?_set_self bound), both, List.set_set]

/-- To work on the remaining files one after the other is to let each of them take its turns.  The
induction is on the files that remain; those before them are done with. -/
theorem foldl_inTurn [GoParser] (o : Options) (rest before : List FileTask) (cache : Option Cache)
    (states : List TaskState) (length : states.length = before.length) :
    ((List.range' before.length rest.length).flatMap fun i => [i, i]).foldl
        (step o (before ++ rest)) ⟨cache, states ++ rest.map fun _ => .waiting⟩
      = ⟨(o.extractAll cache rest).2,
          states ++ (o.extractAll cache rest).1.map fun outcome => .finished outcome.result⟩ := by
  induction rest generalizing before cache states with
  | nil => rfl
  | cons t rest ih =>
    have task : (before ++ t :: rest)[before.length]? = some t := by simp
    have here : (states ++ (t :: rest).map fun _ => TaskState.waiting)[before.length]?
        = some .waiting := by
      simp [← length]
    have later := ih (before ++ [t]) (o.extractLoaded cache t.1 t.2).cache
      (states ++ [.finished (o.extractLoaded cache t.1 t.2).result]) (by simp [length])
    rw [List.length_append, List.append_assoc, List.append_assoc, List.append_assoc] at later
    rw [List.length_cons, List.range'_succ, List.flatMap_cons, List.foldl_append, List.foldl_cons,
      List.foldl_cons, List.foldl_nil, step_step task here]
    rw [List.set_append_right _ _ (Nat.le_of_eq length), length, Nat.sub_self]
    exact later

/-- **To work on one file after the other** is one of the ways to take turns. -/
theorem after_inTurn [GoParser] (o : Options) (tasks : List FileTask) (cache : Option Cache) :
    after o tasks cache (inTurn tasks.length)
      = ⟨(o.extractAll cache tasks).2,
          (o.extractAll cache tasks).1.map fun outcome => .finished outcome.result⟩ := by
  rw [after, start, inTurn, List.range_eq_range']
  exact foldl_inTurn o tasks [] cache [] rfl

/-- What one file after the other gives, each file on its own gives. -/
theorem results_extractAll [GoParser] (apart : KeysApart o tasks) (cache : Option Cache) :
    (o.extractAll cache tasks).1.map Outcome.result
      = tasks.map fun t => (o.extractLoaded cache t.1 t.2).result := by
  have complete : (after o tasks cache (inTurn tasks.length)).results
      = tasks.map fun t => some (o.extractLoaded cache t.1 t.2).result :=
    results_of_complete apart fun i bound => two_le_count_inTurn bound
  rw [after_inTurn, results, List.map_map] at complete
  refine (List.map_inj_right fun _ _ => Option.some.inj).1 ?_
  rw [List.map_map, List.map_map]
  exact complete

end DirectoryRun

end Marginalia
