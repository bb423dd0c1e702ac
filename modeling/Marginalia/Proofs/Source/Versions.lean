import Marginalia.Proofs.Keyed
import Marginalia.Source.FileSet

/-!
# The versions of the files of a set

A file set grows by calls that add a text, with or without flags of their own, and by
calls that load a file.  Every load has a disk of its own, for disks change between
calls.  A call either stores a text or fails, and one that fails leaves the set as
it was (`FileSet.make_eq`).

A set keeps what was stored twice, as a list of files and as an index of paths.  The
two say the same (`FileSet.Records`): the file with a number is the text that was
stored with it, and a path leads to the newest text among those whose paths are
cleaned to it.  One text more keeps this up (`Records.add`), hence so does every run
of calls (`Records.makeAll`).  What is read from a set after any calls follows from
it (`FileSet.versioned_makeAll`).

The program stops at a text that there is no room for (`FileSet.make?`).  Calls whose
texts have offsets and numbers of 32 bits never get there, and no other calls are made
to the end (`FileSet.makeAll?_eq_some_iff`).
-/

namespace Marginalia

set_option autoImplicit false

/-- A text, and the path that it is stored under. -/
structure StoredText where
  path : Bytes
  content : Bytes
  flags : FileFlags

/-- The file that a text becomes when it gets a number. -/
def StoredText.file (t : StoredText) (id : Nat) : SourceFile :=
  { id, path := Path.clean t.path, content := t.content, flags := t.flags }

namespace PathIndex

/-- **A path leads to the number it was last made to lead to**, and the other paths stay. -/
theorem number?_lead (index : PathIndex) (path path' : Bytes) (id : Nat) :
    (index.lead path id).number? path' = if path = path' then some id else index.number? path' := by
  rw [number?, lead, find?_replaced, number?]
  split
  · rfl
  · rfl

end PathIndex

namespace FileSet

/-! ## Calls -/

/-- A call that is to store a text in a file set. -/
inductive Call where
  | add (path content : Bytes) (flags : FileFlags)
  | addVirtual (path content : Bytes)
  /-- loads a file from the disk as it is at the time of the call -/
  | load (disk : Disk) (path : Bytes)

/-- The text that a call stores, or why it cannot. -/
def Call.text : Call → Except DiskError StoredText
  | .add path content flags => .ok ⟨path, content, flags⟩
  | .addVirtual path content => .ok ⟨path, content, .virtual⟩
  | .load disk path =>
    (disk.read path).map fun raw => ⟨path, (loadContent raw).1, (loadContent raw).2⟩

/-- The texts that calls store, in their order. -/
def Call.texts (calls : List Call) : List StoredText := calls.filterMap fun c => c.text.toOption

/-- Makes a call: the number that it gives, or why it fails, and the set afterwards. -/
def make (s : FileSet) : Call → Except DiskError Nat × FileSet
  | .add path content flags => (.ok (s.add path content flags).1, (s.add path content flags).2)
  | .addVirtual path content => (.ok (s.addVirtual path content).1, (s.addVirtual path content).2)
  | .load disk path =>
    match s.load disk path with
    | .ok (id, s) => (.ok id, s)
    | .error e => (.error e, s)

/-- Makes calls one after the other: their answers, and the set in the end. -/
def makeAll (s : FileSet) : List Call → List (Except DiskError Nat) × FileSet
  | [] => ([], s)
  | c :: rest =>
    ((s.make c).1 :: ((s.make c).2.makeAll rest).1, ((s.make c).2.makeAll rest).2)

/-- Makes a call if there is room for its text.  There is no result if there is none. -/
def make? (s : FileSet) : Call → Option (Except DiskError Nat × FileSet)
  | .add path content flags =>
    (s.add? path content flags).map fun added => (.ok added.1, added.2)
  | .addVirtual path content =>
    (s.add? path content .virtual).map fun added => (.ok added.1, added.2)
  | .load disk path =>
    match s.load? disk path with
    | .ok added => added.map fun added => (.ok added.1, added.2)
    | .error e => some (.error e, s)

/-- Makes calls one after the other, as long as there is room for their texts. -/
def makeAll? (s : FileSet) : List Call → Option (List (Except DiskError Nat) × FileSet)
  | [] => some ([], s)
  | c :: rest =>
    (s.make? c).bind fun made =>
      (made.2.makeAll? rest).map fun later => (made.1 :: later.1, later.2)

variable {s : FileSet} {texts : List StoredText} {c : Call} {t : StoredText} {path : Bytes} {id : Nat}

/-- What a call can do: it stores its text under the next number, or it fails and nothing changes. -/
theorem make_eq (s : FileSet) (c : Call) :
    s.make c = match c.text with
      | .ok t => (.ok s.size, (s.add t.path t.content t.flags).2)
      | .error e => (.error e, s) := by
  cases c with
  | add path content flags => rfl
  | addVirtual path content => rfl
  | load disk path =>
    simp only [make, load, Call.text]
    cases disk.read path with
    | ok raw => rfl
    | error e => rfl

theorem Call.texts_cons (c : Call) (rest : List Call) :
    Call.texts (c :: rest) = c.text.toOption.toList ++ Call.texts rest := by
  rw [texts, List.filterMap_cons]
  cases c.text.toOption with
  | none => rfl
  | some t => rfl

/-- The text of a call stands among the stored ones where the texts of the calls before it end. -/
theorem Call.texts_split {calls : List Call} {i : Nat} (call : calls[i]? = some c)
    (text : c.text = .ok t) :
    Call.texts calls = Call.texts (calls.take i) ++ t :: Call.texts (calls.drop (i + 1)) := by
  have split : calls = calls.take i ++ c :: calls.drop (i + 1) := by
    obtain ⟨bound, rfl⟩ := List.getElem?_eq_some_iff.1 call
    rw [← List.drop_eq_getElem_cons bound, List.take_append_drop]
  calc Call.texts calls
      = Call.texts (calls.take i) ++ Call.texts (c :: calls.drop (i + 1)) := by
        rw [Call.texts, Call.texts, Call.texts, ← List.filterMap_append, ← split]
    _ = Call.texts (calls.take i) ++ t :: Call.texts (calls.drop (i + 1)) := by
        rw [Call.texts_cons, text]
        rfl

/-! ## Room for the texts -/

/-- A call with room for its text stores it, and one that fails needs no room. -/
theorem make?_eq (s : FileSet) (c : Call) :
    s.make? c = match c.text with
      | .ok t => (s.add? t.path t.content t.flags).map fun added => (.ok added.1, added.2)
      | .error e => some (.error e, s) := by
  cases c with
  | add path content flags => rfl
  | addVirtual path content => rfl
  | load disk path =>
    simp only [make?, load?, Call.text]
    cases disk.read path with
    | ok raw => rfl
    | error e => rfl

/-- An answer before the later ones does not keep them from being told apart. -/
theorem map_cons_answer_eq_some_iff (answer : Except DiskError Nat)
    {later : Option (List (Except DiskError Nat) × FileSet)}
    {made : List (Except DiskError Nat) × FileSet} :
    (later.map fun l => (answer :: l.1, l.2)) = some (answer :: made.1, made.2) ↔
      later = some made := by
  rw [Option.map_eq_some_iff]
  constructor
  · rintro ⟨l, rfl, same⟩
    simp only [Prod.mk.injEq, List.cons.injEq, true_and] at same
    rw [Prod.ext same.1 same.2]
  · rintro rfl
    exact ⟨made, rfl, rfl⟩

/-- **Calls are made to the end exactly if there is room for all their texts**: none has offsets of more
than 32 bits, and there are no more of them than there are numbers. -/
theorem makeAll?_eq_some_iff (fits : s.size ≤ UInt32.size) (calls : List Call) :
    s.makeAll? calls = some (s.makeAll calls) ↔
      (∀ t ∈ Call.texts calls, t.content.length < UInt32.size) ∧
        s.size + (Call.texts calls).length ≤ UInt32.size := by
  induction calls generalizing s with
  | nil => simpa [makeAll?, makeAll, Call.texts] using fits
  | cons c rest ih =>
    rw [makeAll?, make?_eq, makeAll, make_eq, Call.texts_cons]
    cases c.text with
    | error e =>
      simp only [Option.bind_some, map_cons_answer_eq_some_iff]
      exact ih fits
    | ok t =>
      have grown : (s.add t.path t.content t.flags).2.size = s.size + 1 := List.length_append
      have texts : (Except.ok t : Except DiskError StoredText).toOption.toList ++ Call.texts rest
          = t :: Call.texts rest := rfl
      simp only [texts, List.forall_mem_cons, List.length_cons]
      by_cases room : s.HasRoom t.content
      · have added : s.add? t.path t.content t.flags = some (s.add t.path t.content t.flags) :=
          add?_eq_some_iff.2 room
        have number : (s.add t.path t.content t.flags).1 = s.size := rfl
        simp only [added, number, Option.map_some, Option.bind_some, map_cons_answer_eq_some_iff]
        obtain ⟨short, free⟩ := room
        rw [ih (by omega), grown]
        constructor
        · rintro ⟨others, few⟩
          exact ⟨⟨short, others⟩, by omega⟩
        · rintro ⟨⟨-, others⟩, few⟩
          exact ⟨others, by omega⟩
      · have stopped : s.add? t.path t.content t.flags = none := if_neg room
        simp only [stopped, Option.map_none, Option.bind_none, reduceCtorEq, false_iff]
        rintro ⟨⟨short, -⟩, few⟩
        exact room ⟨short, by omega⟩

/-! ## Files and index -/

/-- Of the texts stored under a clean path, the one with the number is the newest. -/
structure Newest (texts : List StoredText) (path : Bytes) (id : Nat) : Prop where
  stored : ∃ t, texts[id]? = some t ∧ Path.clean t.path = path
  latest : ∀ {id' : Nat} {t : StoredText}, texts[id']? = some t → Path.clean t.path = path → id' ≤ id

/-- A text that is stored now is the newest under its path. -/
theorem newest_concat (texts : List StoredText) (t : StoredText) :
    Newest (texts ++ [t]) (Path.clean t.path) texts.length where
  stored := ⟨t, List.getElem?_concat_length, rfl⟩
  latest := by
    intro id' t' there _
    have bound := (List.getElem?_eq_some_iff.1 there).1
    rw [List.length_append, List.length_singleton] at bound
    omega

/-- It leaves the newest text under another path what it was. -/
theorem Newest.concat (newest : Newest texts path id) (other : Path.clean t.path ≠ path) :
    Newest (texts ++ [t]) path id where
  stored := by
    obtain ⟨t', there, same⟩ := newest.stored
    have bound := (List.getElem?_eq_some_iff.1 there).1
    exact ⟨t', by rwa [List.getElem?_append_left bound], same⟩
  latest := by
    intro id' t' there same
    rcases Nat.lt_or_ge id' texts.length with before | after
    · rw [List.getElem?_append_left before] at there
      exact newest.latest there same
    · have last : t' = t := by
        rw [List.getElem?_append_right after, List.getElem?_singleton] at there
        split at there
        · exact (Option.some.inj there).symm
        · simp at there
      exact absurd (last ▸ same) other

/-- The files of a set are the stored texts with their numbers, and each path leads to the newest of
them. -/
structure Records (s : FileSet) (texts : List StoredText) : Prop where
  files : s.files = texts.mapIdx fun id t => t.file id
  newest : ∀ {path : Bytes} {id : Nat}, s.index.number? path = some id → Newest texts path id
  missing : ∀ {path : Bytes}, s.index.number? path = none → ∀ t ∈ texts, Path.clean t.path ≠ path

namespace Records

theorem size (records : s.Records texts) : s.size = texts.length := by
  rw [FileSet.size, records.files, List.length_mapIdx]

theorem get? (records : s.Records texts) (id : Nat) : s.get? id = texts[id]?.map (·.file id) := by
  rw [FileSet.get?, records.files, List.getElem?_mapIdx]

/-- **One text more.** -/
theorem add (records : s.Records texts) (t : StoredText) :
    (s.add t.path t.content t.flags).2.Records (texts ++ [t]) where
  files := by
    rw [List.mapIdx_concat, ← records.files, ← records.size]
    rfl
  newest := by
    intro path id leads
    simp only [FileSet.add, PathIndex.number?_lead] at leads
    split at leads
    next same =>
      rw [← Option.some.inj leads, records.size, ← same]
      exact newest_concat texts t
    next other => exact (records.newest leads).concat other
  missing := by
    intro path leads
    simp only [FileSet.add, PathIndex.number?_lead] at leads
    split at leads
    next => simp at leads
    next other =>
      intro t' member
      rcases List.mem_append.1 member with earlier | last
      · exact records.missing leads t' earlier
      · rw [List.mem_singleton.1 last]
        exact other

theorem make (records : s.Records texts) (c : Call) :
    (s.make c).2.Records (texts ++ c.text.toOption.toList) := by
  rw [make_eq]
  cases c.text with
  | ok t => exact records.add t
  | error e =>
    have same : texts ++ (Except.error e : Except DiskError StoredText).toOption.toList = texts :=
      List.append_nil texts
    rwa [same]

/-- **A run of calls**, by induction on the calls. -/
theorem makeAll (records : s.Records texts) (calls : List Call) :
    (s.makeAll calls).2.Records (texts ++ Call.texts calls) := by
  induction calls generalizing s texts with
  | nil => rwa [Call.texts, List.filterMap_nil, List.append_nil]
  | cons c rest ih =>
    rw [Call.texts_cons, ← List.append_assoc]
    exact ih (records.make c)

end Records

/-! ## Answers -/

/-- The numbers that calls give go on from the size of the set. -/
theorem numbers_makeAll (s : FileSet) (calls : List Call) :
    (s.makeAll calls).1.filterMap Except.toOption
      = List.range' s.size (Call.texts calls).length := by
  induction calls generalizing s with
  | nil => rfl
  | cons c rest ih =>
    rw [FileSet.makeAll, List.filterMap_cons, ih, Call.texts_cons, make_eq]
    cases c.text with
    | ok t =>
      have grown : (s.add t.path t.content t.flags).2.size = s.size + 1 := List.length_append
      simp only [grown, Except.toOption, Option.toList_some, List.singleton_append, List.length_cons,
        List.range'_succ]
    | error e => simp [Except.toOption]

/-- The answer to a call depends on the calls before it. -/
theorem answer_makeAll (records : s.Records texts) {calls : List Call} {i : Nat}
    (call : calls[i]? = some c) :
    (s.makeAll calls).1[i]?
      = some (c.text.map fun _ => texts.length + (Call.texts (calls.take i)).length) := by
  induction calls generalizing s texts i with
  | nil => simp at call
  | cons c' rest ih =>
    cases i with
    | zero =>
      rw [List.getElem?_cons_zero] at call
      obtain rfl := Option.some.inj call
      rw [FileSet.makeAll, List.getElem?_cons_zero, make_eq, ← records.size]
      cases c'.text with
      | ok t => rfl
      | error e => rfl
    | succ i =>
      rw [List.getElem?_cons_succ] at call
      rw [FileSet.makeAll, List.getElem?_cons_succ, ih (records.make c') call, List.take_succ_cons,
        Call.texts_cons, List.length_append, List.length_append, Nat.add_assoc]

/-! ## What is read from a set -/

/-- What calls answer, and what is read from the set that they leave. -/
structure Versioned (calls : List Call) (answers : List (Except DiskError Nat)) (s : FileSet) :
    Prop where
  /-- the calls that succeed give 0, 1, 2 and so on, in their order -/
  numbered : answers.filterMap Except.toOption = List.range s.size
  /-- a call fails if its file cannot be read, with the reason for that -/
  failed : ∀ {i : Nat} {c : Call} {e : DiskError}, calls[i]? = some c → c.text = .error e →
    answers[i]? = some (.error e)
  /-- any other call gives the number of successful calls before it, under which its text is kept -/
  kept : ∀ {i : Nat} {c : Call} {t : StoredText}, calls[i]? = some c → c.text = .ok t →
    ∃ f, answers[i]? = some (.ok f.id) ∧ f.id = (Call.texts (calls.take i)).length ∧
      s.get? f.id = some f ∧ f.path = Path.clean t.path ∧ f.content = t.content ∧
      f.index = lineIndex t.content ∧ f.hash = Sha256.digest t.content ∧ f.flags = t.flags
  /-- a path leads to the newest file whose path is cleaned to the same path -/
  found : ∀ {path : Bytes} {f : SourceFile}, s.byPath? path = some f ↔
    s.get? f.id = some f ∧ f.path = Path.clean path ∧
      ∀ (id : Nat) (g : SourceFile), s.get? id = some g → g.path = Path.clean path → id ≤ f.id
  /-- and nowhere if there is no such file -/
  missing : ∀ {path : Bytes}, s.byPath? path = none ↔
    ∀ (id : Nat) (g : SourceFile), s.get? id = some g → g.path ≠ Path.clean path

namespace Records

theorem exists_of_get? (records : s.Records texts) {f : SourceFile} (here : s.get? id = some f) :
    ∃ t, texts[id]? = some t ∧ t.file id = f := by
  rw [records.get?] at here
  exact Option.map_eq_some_iff.1 here

/-- A path that the index knows leads to a file, which is the newest one. -/
theorem byPath?_of_newest (records : s.Records texts)
    (leads : s.index.number? (Path.clean path) = some id) :
    ∃ f, s.byPath? path = some f ∧ s.get? f.id = some f ∧ f.path = Path.clean path ∧
      ∀ (id' : Nat) (g : SourceFile), s.get? id' = some g → g.path = Path.clean path → id' ≤ f.id := by
  obtain ⟨⟨t, there, same⟩, latest⟩ := records.newest leads
  have here : s.get? id = some (t.file id) := by
    rw [records.get?, there]
    rfl
  refine ⟨t.file id, by rw [byPath?, leads]; exact here, here, same, ?_⟩
  intro id' g here' same'
  obtain ⟨t', there', rfl⟩ := records.exists_of_get? here'
  exact latest there' same'

theorem byPath?_of_missing (records : s.Records texts)
    (leads : s.index.number? (Path.clean path) = none) :
    s.byPath? path = none ∧
      ∀ (id : Nat) (g : SourceFile), s.get? id = some g → g.path ≠ Path.clean path := by
  refine ⟨by rw [byPath?, leads]; rfl, ?_⟩
  intro id g here
  obtain ⟨t, there, rfl⟩ := records.exists_of_get? here
  exact records.missing leads t (List.mem_of_getElem? there)

theorem byPath?_eq_some_iff (records : s.Records texts) {f : SourceFile} :
    s.byPath? path = some f ↔ s.get? f.id = some f ∧ f.path = Path.clean path ∧
      ∀ (id : Nat) (g : SourceFile), s.get? id = some g → g.path = Path.clean path → id ≤ f.id := by
  cases leads : s.index.number? (Path.clean path) with
  | none =>
    obtain ⟨none, missing⟩ := records.byPath?_of_missing leads
    rw [none]
    exact ⟨by simp, fun ⟨here, same, _⟩ => absurd same (missing _ _ here)⟩
  | some id =>
    obtain ⟨newest, found, here, same, latest⟩ := records.byPath?_of_newest leads
    rw [found]
    constructor
    · intro eq
      rw [← Option.some.inj eq]
      exact ⟨here, same, latest⟩
    · rintro ⟨here', same', latest'⟩
      have numbers : newest.id = f.id := Nat.le_antisymm (latest' _ _ here same) (latest _ _ here' same')
      rwa [← here, numbers]

theorem byPath?_eq_none_iff (records : s.Records texts) :
    s.byPath? path = none ↔
      ∀ (id : Nat) (g : SourceFile), s.get? id = some g → g.path ≠ Path.clean path := by
  cases leads : s.index.number? (Path.clean path) with
  | none =>
    obtain ⟨none, missing⟩ := records.byPath?_of_missing leads
    exact ⟨fun _ => missing, fun _ => none⟩
  | some id =>
    obtain ⟨newest, found, here, same, -⟩ := records.byPath?_of_newest leads
    rw [found]
    exact ⟨by simp, fun missing => absurd same (missing _ _ here)⟩

end Records

/-- **Every text that was stored stays what it was, and every path leads to its newest version**,
whatever is added or cannot be loaded.  The program makes the calls to the end exactly if there is room
for all their texts. -/
theorem versioned_makeAll (base : Bytes) (calls : List Call) :
    Versioned calls (({ base } : FileSet).makeAll calls).1 (({ base } : FileSet).makeAll calls).2 ∧
    (({ base } : FileSet).makeAll? calls = some (({ base } : FileSet).makeAll calls) ↔
      (∀ t ∈ Call.texts calls, t.content.length < UInt32.size) ∧
        (Call.texts calls).length ≤ UInt32.size) := by
  have empty : ({ base } : FileSet).Records [] :=
    { files := rfl
      newest := by simp [PathIndex.number?]
      missing := by simp }
  have records : (({ base } : FileSet).makeAll calls).2.Records (Call.texts calls) :=
    empty.makeAll calls
  have room := makeAll?_eq_some_iff (s := { base }) (Nat.zero_le _) calls
  rw [show ({ base } : FileSet).size = 0 from rfl, Nat.zero_add] at room
  refine ⟨?_, room⟩
  exact {
    numbered := by
      rw [numbers_makeAll, records.size, List.range_eq_range']
      rfl
    failed := by
      intro i c e call text
      rw [answer_makeAll empty call, text]
      rfl
    kept := by
      intro i c t call text
      have answer := answer_makeAll empty call
      rw [text, List.length_nil, Nat.zero_add] at answer
      have here : (Call.texts calls)[(Call.texts (calls.take i)).length]? = some t := by
        rw [Call.texts_split call text, List.getElem?_append_right (Nat.le_refl _), Nat.sub_self,
          List.getElem?_cons_zero]
      refine ⟨t.file (Call.texts (calls.take i)).length, answer, rfl, ?_, rfl, rfl, rfl, rfl, rfl⟩
      rw [StoredText.file, records.get?, here]
      rfl
    found := records.byPath?_eq_some_iff
    missing := records.byPath?_eq_none_iff }

example : ((({} : FileSet).makeAll [.add (utf8 "a") (utf8 "1") .virtual,
    .addVirtual (utf8 "b") [], .addVirtual (utf8 "x/..//a") (utf8 "2")]).2.byPath?
      (utf8 "./a")).map SourceFile.id = some 2 := by decide

end FileSet

end Marginalia
