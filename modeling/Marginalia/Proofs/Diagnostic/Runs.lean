import Marginalia.Diagnostic.Bag
import Marginalia.Proofs.Extraction.Report

/-!
# Bags over whole runs

Bags are made one after the other, and each is worked on through its place: a diagnostic
is added, another bag or the bag itself is merged into it, its diagnostics are filtered or
changed.  `Shelf.perform` is one such operation; the steps of a shelf are made of them
(`Shelf.exists_performAll_of_step`).

An operation replaces the one bag that it works on (`Shelf.perform_on_iff`), and
`Bag.Becomes` says what it makes of this bag.  Only adding asks whether there is room, so
it is not clear from the other operations that a bag with a limit never holds more than
that; but merging raises the limit when it has to, and nothing else makes a bag longer
(`Bag.Becomes.within`).  From one operation this goes to every run (`Shelf.orderly_performAll`).
-/

namespace Marginalia

set_option autoImplicit false

/-! ## Operations -/

/-- What can be done with a bag. -/
inductive BagAction where
  | add (d : Diagnostic)
  /-- merges the bag at a place, if there is one to merge, into the bag; it may be the bag itself -/
  | merge (other : Option Nat)
  | filter (keep : Diagnostic → Bool)
  | transform (f : Diagnostic → Diagnostic)

/-- An operation on bags: a new bag is put behind the others, or a bag is worked on. -/
inductive BagOp where
  | new (limit : Int)
  | on (i : Nat) (action : BagAction)

/-- Does an action on a bag name only places where there is a bag? -/
def BagAction.Fits (bags : List Bag) (action : BagAction) : Prop :=
  ∀ j, action = .merge (some j) → j < bags.length

/-- Works on a bag that stands among others: the answer and what becomes of the bag, or `none` if the
bag to merge does not exist. -/
def Bag.act (bags : List Bag) (b : Bag) : BagAction → Option (StepAnswer × Bag)
  | .add d => some (.stored (b.add d).1, (b.add d).2)
  | .merge none => some (.nothing, b)
  | .merge (some j) => bags[j]?.map fun other => (.nothing, b.merge other)
  | .filter keep => some (.nothing, b.filter keep)
  | .transform f => some (.nothing, b.transform f)

namespace Shelf

/-- Carries out an operation: the answer and the bags afterwards, or `none` if the operation names a
bag that does not exist. -/
def perform (sh : Shelf) : BagOp → Option (StepAnswer × Shelf)
  | .new limit => some (.nothing, ⟨sh.bags ++ [Bag.new limit]⟩)
  | .on i action => do
    let b ← sh.bags[i]?
    let (answer, b) ← b.act sh.bags action
    some (answer, sh.set i b)

/-- Carries out operations one after the other. -/
def performAll (sh : Shelf) : List BagOp → Option Shelf
  | [] => some sh
  | op :: rest => (sh.perform op).bind fun done => done.2.performAll rest

end Shelf

/-! ## What becomes of a bag -/

namespace Bag

variable {bags : List Bag} {b b' : Bag} {action : BagAction} {answer : StepAnswer}

/-- The bag has no more diagnostics than its limit allows. -/
def Within (b : Bag) : Prop := 0 < b.limit → (b.items.length : Int) ≤ b.limit

/-- What an action answers and what it makes of a bag that stands among others. -/
def Becomes (bags : List Bag) (b : Bag) : BagAction → StepAnswer → Bag → Prop
  | .add d, answer, b' =>
    -- The diagnostic comes last, or the bag is full and stays as it is.
    answer = .stored true ∧ b'.items = b.items ++ [d] ∧ b'.limit = b.limit ∧
        (0 < b.limit → (b.items.length : Int) < b.limit) ∨
      answer = .stored false ∧ b' = b ∧ 0 < b.limit ∧ b.limit ≤ b.items.length
  | .merge none, _, b' => b' = b
  | .merge (some j), _, b' => ∃ other, bags[j]? = some other ∧ b'.items = b.items ++ other.items ∧
    b'.limit = if 0 < b.limit ∧ b.limit < b'.items.length then (b'.items.length : Int) else b.limit
  | .filter keep, _, b' => b'.items = b.items.filter keep ∧ b'.limit = b.limit
  | .transform f, _, b' => b'.items = b.items.map f ∧ b'.limit = b.limit

theorem becomes_add (bags : List Bag) (b : Bag) (d : Diagnostic) :
    b.Becomes bags (.add d) (.stored (b.add d).1) (b.add d).2 := by
  have isFull : b.full = true ↔ 0 < b.limit ∧ b.limit ≤ b.items.length := by
    simp [full, limited]
  rw [add]
  split
  case isTrue full => exact .inr ⟨rfl, rfl, isFull.1 full⟩
  case isFalse room =>
    refine .inl ⟨rfl, rfl, rfl, fun positive => ?_⟩
    exact Int.not_le.1 fun le => room (isFull.2 ⟨positive, le⟩)

theorem becomes_act (done : b.act bags action = some (answer, b')) :
    b.Becomes bags action answer b' := by
  cases action with
  | add d =>
    obtain ⟨rfl, rfl⟩ := Prod.mk.inj (Option.some.inj done)
    exact becomes_add bags b d
  | merge other =>
    cases other with
    | none =>
      obtain ⟨rfl, rfl⟩ := Prod.mk.inj (Option.some.inj done)
      exact rfl
    | some j =>
      obtain ⟨other, here, same⟩ := Option.map_eq_some_iff.1 done
      obtain ⟨rfl, rfl⟩ := Prod.mk.inj same
      refine ⟨other, here, rfl, ?_⟩
      simp [merge, limited]
  | filter keep =>
    obtain ⟨rfl, rfl⟩ := Prod.mk.inj (Option.some.inj done)
    exact ⟨rfl, rfl⟩
  | transform f =>
    obtain ⟨rfl, rfl⟩ := Prod.mk.inj (Option.some.inj done)
    exact ⟨rfl, rfl⟩

theorem exists_act (fits : action.Fits bags) (b : Bag) :
    ∃ answer b', b.act bags action = some (answer, b') := by
  cases action with
  | add d => exact ⟨_, _, rfl⟩
  | merge other =>
    cases other with
    | none => exact ⟨_, _, rfl⟩
    | some j =>
      have here : bags[j]? = some (bags.get ⟨j, fits j rfl⟩) := List.getElem?_eq_getElem _
      exact ⟨_, _, Option.map_eq_some_iff.2 ⟨_, here, rfl⟩⟩
  | filter keep => exact ⟨_, _, rfl⟩
  | transform f => exact ⟨_, _, rfl⟩

namespace Becomes

/-- **No action takes a bag over its limit.** -/
theorem within (becomes : b.Becomes bags action answer b') (within : b.Within) : b'.Within := by
  intro positive
  cases action with
  | add d =>
    obtain ⟨-, items, limit, room⟩ | ⟨-, rfl, -, -⟩ := becomes
    · have more := room (limit ▸ positive)
      rw [items, limit, List.length_append, List.length_singleton]
      omega
    · exact within positive
  | merge other =>
    cases other with
    | none =>
      obtain rfl := becomes
      exact within positive
    | some j =>
      obtain ⟨other, -, -, limit⟩ := becomes
      split at limit
      case isTrue => omega
      case isFalse enough => omega
  | filter keep =>
    obtain ⟨items, limit⟩ := becomes
    have fewer := List.length_filter_le keep b.items
    have before := within (limit ▸ positive)
    rw [items, limit]
    omega
  | transform f =>
    obtain ⟨items, limit⟩ := becomes
    rw [items, limit, List.length_map]
    exact within (limit ▸ positive)

/-- A limit is kept or raised, and it is raised by merging, to what the bag then holds. -/
theorem limit (becomes : b.Becomes bags action answer b') :
    b'.limit = b.limit ∨
      0 < b.limit ∧ b.limit < b'.limit ∧ b'.limit = b'.items.length ∧
        ∃ j, action = .merge (some j) := by
  cases action with
  | add d =>
    obtain ⟨-, -, limit, -⟩ | ⟨-, rfl, -, -⟩ := becomes
    · exact .inl limit
    · exact .inl rfl
  | merge other =>
    cases other with
    | none => exact .inl (congrArg Bag.limit becomes)
    | some j =>
      obtain ⟨other, -, -, limit⟩ := becomes
      split at limit
      case isTrue raised => exact .inr ⟨raised.1, limit ▸ raised.2, limit, j, rfl⟩
      case isFalse => exact .inl limit
  | filter keep => exact .inl becomes.2
  | transform f => exact .inl becomes.2

end Becomes

end Bag

/-! ## What an operation does -/

namespace Shelf

variable {sh sh' : Shelf} {i : Nat} {action : BagAction} {answer : StepAnswer} {op : BagOp}
  {ops : List BagOp}

/-- **An operation on a bag replaces this bag** and none of the others. -/
theorem perform_on_iff :
    sh.perform (.on i action) = some (answer, sh') ↔
      ∃ b b', sh.bags[i]? = some b ∧ b.act sh.bags action = some (answer, b') ∧ sh' = sh.set i b' := by
  simp only [perform, Option.bind_eq_bind, Option.bind_eq_some_iff, Prod.exists, Option.some.injEq,
    Prod.mk.injEq]
  constructor
  · rintro ⟨b, here, answer', b', done, rfl, rfl⟩
    exact ⟨b, b', here, done, rfl⟩
  · rintro ⟨b, b', here, done, rfl⟩
    exact ⟨b, here, answer, b', done, rfl, rfl⟩

theorem set_same {b : Bag} (here : sh.bags[i]? = some b) : sh.set i b = sh := by
  obtain ⟨bound, rfl⟩ := List.getElem?_eq_some_iff.1 here
  rw [set, List.set_getElem_self]

/-- The bags that there are before an operation are there afterwards, as they were or as the operation
makes them. -/
theorem exists_after (done : sh.perform op = some (answer, sh')) {j : Nat} {b : Bag}
    (here : sh.bags[j]? = some b) :
    ∃ b', sh'.bags[j]? = some b' ∧
      (b' = b ∨ ∃ action, op = .on j action ∧ b.Becomes sh.bags action answer b') := by
  cases op with
  | new limit =>
    obtain ⟨rfl, rfl⟩ := Prod.mk.inj (Option.some.inj done)
    obtain ⟨bound, -⟩ := List.getElem?_eq_some_iff.1 here
    exact ⟨b, by rwa [List.getElem?_append_left bound], .inl rfl⟩
  | on i action =>
    obtain ⟨c, c', at_, acted, rfl⟩ := perform_on_iff.1 done
    by_cases same : i = j
    · subst same
      obtain rfl := Option.some.inj (at_.symm.trans here)
      obtain ⟨bound, -⟩ := List.getElem?_eq_some_iff.1 here
      exact ⟨c', List.getElem?_set_self bound, .inr ⟨action, rfl, Bag.becomes_act acted⟩⟩
    · exact ⟨b, by rwa [set, List.getElem?_set_ne same], .inl rfl⟩

theorem within_perform (within : ∀ b ∈ sh.bags, b.Within)
    (done : sh.perform op = some (answer, sh')) : ∀ b ∈ sh'.bags, b.Within := by
  cases op with
  | new limit =>
    obtain ⟨rfl, rfl⟩ := Prod.mk.inj (Option.some.inj done)
    intro b member
    rcases List.mem_append.1 member with member | member
    · exact within b member
    · obtain rfl := List.mem_singleton.1 member
      exact fun positive => Int.le_of_lt positive
  | on i action =>
    obtain ⟨c, c', here, acted, rfl⟩ := perform_on_iff.1 done
    intro b member
    rcases List.mem_or_eq_of_mem_set member with member | rfl
    · exact within b member
    · exact (Bag.becomes_act acted).within (within c (List.mem_of_getElem? here))

/-! ## Runs -/

theorem within_performAll (within : ∀ b ∈ sh.bags, b.Within) (run : sh.performAll ops = some sh') :
    ∀ b ∈ sh'.bags, b.Within := by
  induction ops generalizing sh with
  | nil =>
    obtain rfl := Option.some.inj run
    exact within
  | cons op ops ih =>
    obtain ⟨⟨answer, middle⟩, done, rest⟩ := Option.bind_eq_some_iff.1 run
    exact ih (within_perform within done) rest

/-- **In a run limits are kept or raised**, and what has no limit stays without. -/
theorem exists_later (run : sh.performAll ops = some sh') {b : Bag} (here : sh.bags[i]? = some b) :
    ∃ b', sh'.bags[i]? = some b' ∧ b.limit ≤ b'.limit ∧ (b.limit ≤ 0 → b'.limit = b.limit) := by
  induction ops generalizing sh b with
  | nil =>
    obtain rfl := Option.some.inj run
    exact ⟨b, here, Int.le_refl _, fun _ => rfl⟩
  | cons op ops ih =>
    obtain ⟨⟨answer, middle⟩, done, rest⟩ := Option.bind_eq_some_iff.1 run
    obtain ⟨c, there, becomes⟩ := exists_after done here
    obtain ⟨b', later, raised, unlimited⟩ := ih rest there
    refine ⟨b', later, ?_⟩
    rcases becomes with rfl | ⟨action, -, becomes⟩
    · exact ⟨raised, unlimited⟩
    · have limit := becomes.limit
      refine ⟨by omega, fun none => ?_⟩
      have same : c.limit = b.limit := by omega
      rw [unlimited (same ▸ none), same]

/-! ## Steps of a shelf -/

/-- A report is emitted once at most. -/
theorem snd_emitTimes {σ : Type} (collect : Diagnostic → σ → σ) (n : Nat) (r : Report) (state : σ) :
    (Report.emitTimes collect n r state).2 = state ∨
      (Report.emitTimes collect n r state).2 = collect r.diagnostic state := by
  have emitted : ∀ (n : Nat) (r : Report) (state : σ), r.emitted = true →
      (Report.emitTimes collect n r state).2 = state := by
    intro n
    induction n with
    | zero => intros; rfl
    | succ n ih =>
      intro r state emitted
      have same : r.emit collect state = (r, state) := by rw [Report.emit, if_pos emitted]
      rw [Report.emitTimes, same]
      exact ih r state emitted
  cases n with
  | zero => exact .inl rfl
  | succ n =>
    by_cases before : r.emitted = true
    · exact .inl (emitted _ r state before)
    · have first : r.emit collect state = ({ r with emitted := true }, collect r.diagnostic state) := by
        rw [Report.emit, if_neg before]
      rw [Report.emitTimes, first]
      exact .inr (emitted n _ _ rfl)

/-- What one operation does to a bag is done by a run. -/
theorem performAll_on {b b' : Bag} (here : sh.bags[i]? = some b)
    (acted : b.act sh.bags action = some (answer, b')) :
    sh.performAll [.on i action] = some (sh.set i b') := by
  rw [performAll, perform_on_iff.2 ⟨b, b', here, acted, rfl⟩]
  rfl

/-- **The steps of a shelf are made of operations.** -/
theorem exists_performAll_of_step {s : ShelfStep} (step : sh.step s = some (answer, i, sh')) :
    ∃ ops, sh.performAll ops = some sh' := by
  cases s with
  | new limit =>
    cases step
    exact ⟨[.new limit], rfl⟩
  | add j d =>
    obtain ⟨b, here, step⟩ := Option.bind_eq_some_iff.1 step
    cases step
    exact ⟨[.on i (.add d)], performAll_on here rfl⟩
  | merge j other =>
    cases other with
    | none =>
      obtain ⟨b, here, step⟩ := Option.bind_eq_some_iff.1 step
      cases step
      exact ⟨[], rfl⟩
    | some k =>
      obtain ⟨b, here, step⟩ := Option.bind_eq_some_iff.1 step
      obtain ⟨other, there, step⟩ := Option.bind_eq_some_iff.1 step
      cases step
      exact ⟨[.on i (.merge (some k))], performAll_on here (by rw [Bag.act, there]; rfl)⟩
  | keepSeverity j least =>
    obtain ⟨b, here, step⟩ := Option.bind_eq_some_iff.1 step
    obtain ⟨least, -, step⟩ := Option.bind_eq_some_iff.1 step
    cases step
    exact ⟨[.on i (.filter fun d => least.atLeast d.severity)], performAll_on here rfl⟩
  | dropCode j code =>
    obtain ⟨b, here, step⟩ := Option.bind_eq_some_iff.1 step
    cases step
    exact ⟨[.on i (.filter fun d => d.code ≠ code)], performAll_on here rfl⟩
  | setSeverity j severity =>
    obtain ⟨b, here, step⟩ := Option.bind_eq_some_iff.1 step
    obtain ⟨severity, -, step⟩ := Option.bind_eq_some_iff.1 step
    cases step
    exact ⟨[.on i (.transform fun d => { d with severity := severity })], performAll_on here rfl⟩
  | report j sink times r =>
    obtain ⟨b, here, step⟩ := Option.bind_eq_some_iff.1 step
    cases step
    rcases snd_emitTimes _ times r b with nothing | added
    · exact ⟨[], by rw [nothing, set_same here]; rfl⟩
    · rw [added]
      cases sink with
      | bag => exact ⟨[.on i (.add r.diagnostic)], performAll_on here rfl⟩
      | nowhere => exact ⟨[], by rw [set_same here]; rfl⟩
  | blankReport =>
    obtain ⟨b, here, step⟩ := Option.bind_eq_some_iff.1 step
    cases step
    exact ⟨[], rfl⟩

/-! ## Reachable bags -/

/-- Bags keep their limits, and operations do to them what they should and no more. -/
structure Orderly (sh : Shelf) : Prop where
  /-- a bag with a limit holds no more than that -/
  within : ∀ b ∈ sh.bags, 0 < b.limit → (b.items.length : Int) ≤ b.limit
  /-- a new bag is empty, has the limit asked for, and comes behind the others -/
  new (limit : Int) : sh.perform (.new limit) = some (.nothing, ⟨sh.bags ++ [⟨[], limit⟩]⟩)
  /-- a bag that exists can be worked on -/
  possible (i : Nat) (action : BagAction) (bound : i < sh.bags.length)
    (fits : action.Fits sh.bags) : ∃ answer sh', sh.perform (.on i action) = some (answer, sh')
  /-- to work on a bag changes this bag as the action says, and no other bag -/
  on (i : Nat) (action : BagAction) (answer : StepAnswer) (sh' : Shelf)
    (done : sh.perform (.on i action) = some (answer, sh')) :
    ∃ b b', sh.bags[i]? = some b ∧ b.Becomes sh.bags action answer b' ∧ sh'.bags = sh.bags.set i b'
  /-- no operation lowers a limit, and only merging raises one, to what the bag then holds -/
  limit (op : BagOp) (answer : StepAnswer) (sh' : Shelf) (done : sh.perform op = some (answer, sh'))
    (j : Nat) (b : Bag) (here : sh.bags[j]? = some b) :
    ∃ b', sh'.bags[j]? = some b' ∧ (b'.limit = b.limit ∨
      b.limit < b'.limit ∧ b'.limit = b'.items.length ∧ ∃ k, op = .on j (.merge (some k)))
  /-- whatever happens later, no limit is lower than it was, and a bag without a limit has none and takes
  every diagnostic -/
  later (ops : List BagOp) (sh' : Shelf) (run : sh.performAll ops = some sh') (j : Nat) (b : Bag)
    (here : sh.bags[j]? = some b) :
    ∃ b', sh'.bags[j]? = some b' ∧ b.limit ≤ b'.limit ∧
      (b.limit ≤ 0 → b'.limit = b.limit ∧
        ∀ d, ∃ sh'', sh'.perform (.on j (.add d)) = some (.stored true, sh''))
  /-- the steps of a shelf are made of these operations -/
  steps (s : ShelfStep) (answer : StepAnswer) (i : Nat) (sh' : Shelf)
    (step : sh.step s = some (answer, i, sh')) : ∃ ops, sh.performAll ops = some sh'

/-- **Whatever is done with bags, they are orderly.** -/
theorem orderly_performAll (ops : List BagOp) (sh : Shelf)
    (run : performAll {} ops = some sh) : sh.Orderly where
  within := within_performAll (by simp) run
  new _ := rfl
  possible i action bound fits := by
    obtain ⟨answer, b', acted⟩ := Bag.exists_act fits sh.bags[i]
    exact ⟨answer, _, perform_on_iff.2 ⟨_, b', List.getElem?_eq_getElem bound, acted, rfl⟩⟩
  on i action answer sh' done := by
    obtain ⟨b, b', here, acted, rfl⟩ := perform_on_iff.1 done
    exact ⟨b, b', here, Bag.becomes_act acted, rfl⟩
  limit op answer sh' done j b here := by
    obtain ⟨b', there, rfl | ⟨action, rfl, becomes⟩⟩ := exists_after done here
    · exact ⟨b', there, .inl rfl⟩
    · refine ⟨b', there, becomes.limit.imp id ?_⟩
      rintro ⟨-, raised, merged, k, rfl⟩
      exact ⟨raised, merged, k, rfl⟩
  later ops sh' run j b here := by
    obtain ⟨b', there, raised, unlimited⟩ := exists_later run here
    refine ⟨b', there, raised, fun none => ⟨unlimited none, fun d => ?_⟩⟩
    have same := unlimited none
    have stored : (b'.add d).1 = true := by
      rcases Bag.becomes_add sh'.bags b' d with ⟨answer, -⟩ | ⟨-, -, positive, -⟩
      · exact StepAnswer.stored.inj answer
      · omega
    exact ⟨_, perform_on_iff.2 ⟨b', _, there, by rw [Bag.act, stored], rfl⟩⟩
  steps _ _ _ _ := exists_performAll_of_step

/-- A bag for one diagnostic and a bag without a limit: the second is merged into the first, the first
into itself, and what is no error is taken out of it. -/
def merging : List BagOp :=
  [.new 1, .new 0, .on 0 (.add (.ofCode .unterminated 1 [])), .on 0 (.add (.ofCode .unterminated 2 [])),
   .on 1 (.add (.ofCode .emptyReason 3 [])), .on 0 (.merge (some 1)), .on 0 (.merge (some 0)),
   .on 0 (.merge none), .on 0 (.filter fun d => d.severity = .error)]

/-- The bags in the end. -/
def merged : Shelf where
  bags :=
    [{ items := [.ofCode .unterminated 1 [], .ofCode .unterminated 1 []], limit := 4 },
     { items := [.ofCode .emptyReason 3 []], limit := 0 }]

theorem orderly_merged : performAll {} merging = some merged ∧ merged.Orderly := by
  have run : performAll {} merging = some merged := by rfl
  exact ⟨run, orderly_performAll merging merged run⟩

end Shelf

end Marginalia
