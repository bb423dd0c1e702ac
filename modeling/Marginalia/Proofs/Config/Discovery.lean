import Mathlib.Data.List.Basic
import Mathlib.Data.List.Induction
import Marginalia.Config.File
import Marginalia.Proofs.Path.Names

/-!
# Where settings are found

The search for a file of settings goes from a directory to its parent until a directory is
its own parent (`Path.Ascends`).  The parent of a clean path from the root is the path
without its last name (`Path.directory_ofElements`), and so a path has the chain of its
ancestors above it, and nothing is above the root (`Path.ascends_ancestors`).  The search
comes to an end however deep it starts and whatever it is told about the paths it asks for.

What it answers is decided in the first directory of the chain for which it is not told
that there is no such file (`Config.FirstKnown`): there the file is found, or the search
fails.  If there is no such directory, nothing is found (`Config.find_nearest`).
-/

namespace Marginalia

set_option autoImplicit false

namespace Path

open Bytes (slash)

variable {path name dir : Bytes} {es : List Bytes}

/-! ## Parents -/

theorem fst_splitLast_append (noSlash : slash ∉ name) (before : Bytes) :
    (splitLast (before ++ slash :: name)).1 = before ++ [slash] := by
  have tail := snd_splitLast_append noSlash before
  have cut : (splitLast (before ++ slash :: name)).1 = (before ++ slash :: name).take
      ((before ++ slash :: name).length - (splitLast (before ++ slash :: name)).2.length) := rfl
  have length : (before ++ slash :: name).length - name.length = (before ++ [slash]).length := by
    simp only [List.length_append, List.length_cons, List.length_nil]
    omega
  have regroup : before ++ slash :: name = before ++ [slash] ++ name := by
    rw [List.append_assoc, List.singleton_append]
  rw [cut, tail, length, regroup, List.take_left' rfl]

/-- A slash at the end of a path does not count. -/
theorem clean_concat_slash (nonempty : path ≠ []) : clean (path ++ [slash]) = clean path := by
  have same : cleanElements (path ++ [slash]) = cleanElements path := by
    rw [cleanElements_append nonempty]
    exact List.reverse_reverse _
  rw [clean, same, isAbsolute_append nonempty, ← clean]

theorem isPlace_ofElements (names : ∀ e ∈ es, IsName e) : IsPlace (ofElements true es) where
  rooted := isAbsolute_ofElements (cleanStack_of_names true names)
  cleaned := by
    have clean_ := cleanStack_of_names true names
    rw [clean, isAbsolute_ofElements clean_, cleanElements_ofElements clean_]

/-- **The parent of a path from the root is the path without its last name.** -/
theorem directory_ofElements (names : ∀ e ∈ es ++ [name], IsName e) :
    directory (ofElements true (es ++ [name])) = ofElements true es := by
  have noSlash := (names name (by simp)).noSlash
  have place : IsPlace (ofElements true es) :=
    isPlace_ofElements fun e member => names e (List.mem_append_left _ member)
  by_cases none : es = []
  · have written : ofElements true (es ++ [name]) = [] ++ slash :: name := by
      rw [none, List.nil_append, ofElements, if_pos rfl, Bytes.join_singleton, List.nil_append]
    rw [written, directory, fst_splitLast_append noSlash, none]
    rfl
  · have written : ofElements true (es ++ [name]) = ofElements true es ++ slash :: name := by
      rw [ofElements, if_pos rfl, Bytes.join_append none (by simp), Bytes.join_singleton, ofElements,
        if_pos rfl, List.cons_append]
    rw [written, directory, fst_splitLast_append noSlash, clean_concat_slash place.ne_nil,
      place.cleaned]

theorem IsPlace.directory (place : IsPlace path) : IsPlace (directory path) := by
  rcases List.eq_nil_or_concat' (cleanElements path) with none | ⟨es, name, split⟩
  · rw [place.cleanElements_eq_nil_iff.1 none]
    exact ⟨rfl, rfl⟩
  · have names : ∀ e ∈ es ++ [name], IsName e := fun e member => place.isName (split ▸ member)
    rw [place.eq, split, directory_ofElements names]
    exact isPlace_ofElements fun e member => names e (List.mem_append_left _ member)

/-! ## Chains of parents -/

/-- What a search meets that starts in a directory and goes on to the parent, as long as the parent is
another directory. -/
inductive Ascends : Bytes → List Bytes → Prop where
  | top {dir : Bytes} (fixed : directory dir = dir) : Ascends dir [dir]
  | up {dir : Bytes} {above : List Bytes} (moves : directory dir ≠ dir)
      (rest : Ascends (directory dir) above) : Ascends dir (dir :: above)

theorem ancestors_ofElements (names : ∀ e ∈ es, IsName e) :
    ancestors (ofElements true es)
      = (List.range (es.length + 1)).reverse.map fun n => ofElements true (es.take n) := by
  rw [ancestors, cleanElements_ofElements (cleanStack_of_names true names)]

/-- A path with a name more has one ancestor more. -/
theorem ancestors_concat (names : ∀ e ∈ es ++ [name], IsName e) :
    ancestors (ofElements true (es ++ [name]))
      = ofElements true (es ++ [name]) :: ancestors (ofElements true es) := by
  have shorter : ∀ n ∈ (List.range (es.length + 1)).reverse,
      ofElements true ((es ++ [name]).take n) = ofElements true (es.take n) := by
    intro n member
    rw [List.mem_reverse, List.mem_range] at member
    rw [List.take_append_of_le_length (Nat.le_of_lt_succ member)]
  rw [ancestors_ofElements names,
    ancestors_ofElements fun e member => names e (List.mem_append_left _ member), List.length_append,
    List.length_singleton, List.range_succ, List.reverse_concat, List.map_cons,
    List.map_congr_left shorter, ← List.length_singleton, ← List.length_append, List.take_length]

/-- **A search meets the ancestors of a path and then comes to an end.**  The induction takes one name
after the other from the path. -/
theorem ascends_ancestors (place : IsPlace dir) : Ascends dir (ancestors dir) := by
  have names : ∀ e ∈ cleanElements dir, IsName e := fun e => place.isName
  rw [place.eq]
  generalize cleanElements dir = es at names
  induction es using List.reverseRecOn with
  | nil => exact .top rfl
  | append_singleton es name ih =>
    have names' : ∀ e ∈ es, IsName e := fun e member => names e (List.mem_append_left _ member)
    have parent := directory_ofElements names
    rw [ancestors_concat names]
    refine .up ?_ (parent ▸ ih names')
    intro same
    have elements := congrArg cleanElements (parent.symm.trans same)
    rw [cleanElements_ofElements (cleanStack_of_names true names'),
      cleanElements_ofElements (cleanStack_of_names true names)] at elements
    simp at elements

/-- The last ancestor is the root. -/
theorem getLast?_ancestors (dir : Bytes) : (ancestors dir).getLast? = some [slash] := by
  rw [ancestors, List.getLast?_map, List.getLast?_reverse, List.head?_range]
  rfl

end Path

namespace Config

variable {look : Bytes → Except DiskError Entry} {dirs : List Bytes} {dir dir' path : Bytes}

/-! ## What a search is told -/

/-- The path of the file of settings in a directory. -/
def candidate (dir : Bytes) : Bytes := Path.join [dir, fileName]

/-- A search is told that there is no file of settings in a directory. -/
def Missing (look : Bytes → Except DiskError Entry) (dir : Bytes) : Prop :=
  ∃ e, look (candidate dir) = .error e ∧ e.cause = .notFound

/-- The first of several directories for which a search is told something else. -/
def FirstKnown (look : Bytes → Except DiskError Entry) (dirs : List Bytes) (dir : Bytes) : Prop :=
  ∃ nearer farther, dirs = nearer ++ dir :: farther ∧ (∀ d ∈ nearer, Missing look d) ∧
    ¬ Missing look dir

/-- A search starts in the directory that a path names, or in the one that holds it if it is told that
the path names a file. -/
def StartsIn (look : Bytes → Except DiskError Entry) (path dir : Bytes) : Prop :=
  ((∃ entry, look path = .ok entry ∧ entry.isDir = false) ∧ dir = Path.directory path) ∨
  ((∀ entry, look path = .ok entry → entry.isDir = true) ∧ dir = path)

theorem firstKnown_cons_iff {d : Bytes} :
    FirstKnown look (d :: dirs) dir ↔
      (¬ Missing look d ∧ dir = d) ∨ (Missing look d ∧ FirstKnown look dirs dir) := by
  constructor
  · rintro ⟨nearer, farther, split, missing, known⟩
    cases nearer with
    | nil =>
      obtain ⟨rfl, rfl⟩ := List.cons.inj split
      exact .inl ⟨known, rfl⟩
    | cons first nearer =>
      obtain ⟨rfl, rfl⟩ := List.cons.inj split
      obtain ⟨absent, missing⟩ := List.forall_mem_cons.1 missing
      exact .inr ⟨absent, nearer, farther, rfl, missing, known⟩
  · rintro (⟨known, rfl⟩ | ⟨absent, nearer, farther, rfl, missing, known⟩)
    · exact ⟨[], dirs, rfl, by simp, known⟩
    · exact ⟨d :: nearer, farther, rfl, List.forall_mem_cons.2 ⟨absent, missing⟩, known⟩

theorem findIn_cons_of_missing {d : Bytes} (missing : Missing look d) :
    findIn look (d :: dirs) = findIn look dirs := by
  obtain ⟨e, told, cause⟩ := missing
  rw [candidate] at told
  simp only [findIn, told, cause, if_true]

/-- **What is known first decides.** -/
theorem findIn_of_firstKnown (first : FirstKnown look dirs dir) :
    findIn look dirs = match look (candidate dir) with
      | .ok _ => .ok (some (candidate dir))
      | .error e => .error (.unknown (candidate dir) e) := by
  induction dirs with
  | nil =>
    obtain ⟨nearer, farther, split, -⟩ := first
    simp at split
  | cons d dirs ih =>
    rcases firstKnown_cons_iff.1 first with ⟨known, rfl⟩ | ⟨absent, first⟩
    · rw [findIn, ← candidate]
      cases told : look (candidate dir) with
      | ok entry => rfl
      | error e => exact if_neg fun cause => known ⟨e, told, cause⟩
    · rw [findIn_cons_of_missing absent, ih first]

theorem findIn_of_missing (missing : ∀ d ∈ dirs, Missing look d) : findIn look dirs = .ok none := by
  induction dirs with
  | nil => rfl
  | cons d dirs ih =>
    obtain ⟨absent, missing⟩ := List.forall_mem_cons.1 missing
    rw [findIn_cons_of_missing absent, ih missing]

theorem missing_or_exists_firstKnown (look : Bytes → Except DiskError Entry) (dirs : List Bytes) :
    (∀ d ∈ dirs, Missing look d) ∨ ∃ dir, FirstKnown look dirs dir := by
  induction dirs with
  | nil => exact .inl (by simp)
  | cons d dirs ih =>
    by_cases absent : Missing look d
    · rcases ih with missing | ⟨dir, first⟩
      · exact .inl (List.forall_mem_cons.2 ⟨absent, missing⟩)
      · exact .inr ⟨dir, firstKnown_cons_iff.2 (.inr ⟨absent, first⟩)⟩
    · exact .inr ⟨d, firstKnown_cons_iff.2 (.inl ⟨absent, rfl⟩)⟩

theorem startsIn_startDirectory (look : Bytes → Except DiskError Entry) (cwd start : Bytes) :
    StartsIn look (Path.absolute cwd (if start.isEmpty then utf8 "." else start))
      (startDirectory look cwd start) := by
  rw [startDirectory]
  cases told : look (Path.absolute cwd (if start.isEmpty then utf8 "." else start)) with
  | error e =>
    refine .inr ⟨fun entry same => ?_, rfl⟩
    rw [told] at same
    cases same
  | ok entry =>
    cases isDir : entry.isDir with
    | false => exact .inl ⟨⟨entry, told, isDir⟩, by simp [isDir]⟩
    | true =>
      refine .inr ⟨fun entry' same => ?_, by simp [isDir]⟩
      obtain rfl := Except.ok.inj (told.symm.trans same)
      exact isDir

theorem StartsIn.isPlace (starts : StartsIn look path dir) (place : Path.IsPlace path) :
    Path.IsPlace dir := by
  rcases starts with ⟨-, rfl⟩ | ⟨-, rfl⟩
  · exact place.directory
  · exact place

/-- What is known first is known of one directory only. -/
theorem FirstKnown.unique (first : FirstKnown look dirs dir) (first' : FirstKnown look dirs dir') :
    dir = dir' := by
  induction dirs with
  | nil =>
    obtain ⟨nearer, farther, split, -⟩ := first
    simp at split
  | cons d dirs ih =>
    rcases firstKnown_cons_iff.1 first with ⟨known, rfl⟩ | ⟨absent, first⟩
    · rcases firstKnown_cons_iff.1 first' with ⟨-, rfl⟩ | ⟨absent, -⟩
      · rfl
      · exact absurd absent known
    · rcases firstKnown_cons_iff.1 first' with ⟨known, rfl⟩ | ⟨-, first'⟩
      · exact absurd absent known
      · exact ih first first'

theorem FirstKnown.not_forall_missing (first : FirstKnown look dirs dir) :
    ¬ ∀ d ∈ dirs, Missing look d := by
  obtain ⟨nearer, farther, rfl, -, known⟩ := first
  exact fun missing => known (missing dir (by simp))

/-- **What a search through directories answers**: the file that is found first, a failure if something
else than that it is missing is told first, and nothing if it is missing everywhere. -/
theorem findIn_answers (look : Bytes → Except DiskError Entry) (dirs : List Bytes) :
    (∀ path, findIn look dirs = .ok (some path) ↔
      ∃ dir, FirstKnown look dirs dir ∧ (∃ entry, look (candidate dir) = .ok entry) ∧
        path = candidate dir) ∧
    (∀ failure, findIn look dirs = .error failure ↔
      ∃ dir e, FirstKnown look dirs dir ∧ look (candidate dir) = .error e ∧
        failure = .unknown (candidate dir) e) ∧
    (findIn look dirs = .ok none ↔ ∀ dir ∈ dirs, Missing look dir) := by
  rcases missing_or_exists_firstKnown look dirs with missing | ⟨dir, first⟩
  · rw [findIn_of_missing missing]
    refine ⟨fun path => iff_of_false (by simp) ?_, fun failure => iff_of_false (by simp) ?_,
      iff_of_true rfl missing⟩
    · rintro ⟨dir, first, -⟩
      exact first.not_forall_missing missing
    · rintro ⟨dir, e, first, -⟩
      exact first.not_forall_missing missing
  · rw [findIn_of_firstKnown first]
    cases told : look (candidate dir) with
    | ok entry =>
      refine ⟨fun path => ⟨?_, ?_⟩, fun failure => iff_of_false (by simp) ?_,
        iff_of_false (by simp) first.not_forall_missing⟩
      · rintro ⟨⟩
        exact ⟨dir, first, ⟨entry, told⟩, rfl⟩
      · rintro ⟨dir', first', -, rfl⟩
        rw [first.unique first']
      · rintro ⟨dir', e, first', told', -⟩
        rw [first'.unique first, told] at told'
        cases told'
    | error e =>
      refine ⟨fun path => iff_of_false (by simp) ?_, fun failure => ⟨?_, ?_⟩,
        iff_of_false (by simp) first.not_forall_missing⟩
      · rintro ⟨dir', first', ⟨entry, told'⟩, -⟩
        rw [first'.unique first, told] at told'
        cases told'
      · rintro ⟨⟩
        exact ⟨dir, e, first, told, rfl⟩
      · rintro ⟨dir', e', first', told', rfl⟩
        rw [first'.unique first] at told' ⊢
        rw [Except.error.inj (told.symm.trans told')]

/-- **The nearest settings count.**  Whatever a search is told about paths, and wherever it starts, it
comes up to the root and ends.  On the way it answers in the first directory for which it is not told
that there is no file of settings, with the file if there is one and with a failure otherwise.  It
finds nothing exactly if there is no file in any of the directories. -/
theorem find_nearest (look : Bytes → Except DiskError Entry) (cwd start : Bytes)
    (rooted : Path.isAbsolute cwd = true) :
    ∃ first dirs,
      StartsIn look (Path.absolute cwd (if start.isEmpty then utf8 "." else start)) first ∧
      Path.Ascends first dirs ∧ dirs.getLast? = some [Bytes.slash] ∧
      (∀ path, find look cwd start = .ok (some path) ↔
        ∃ dir, FirstKnown look dirs dir ∧ (∃ entry, look (candidate dir) = .ok entry) ∧
          path = candidate dir) ∧
      (∀ failure, find look cwd start = .error failure ↔
        ∃ dir e, FirstKnown look dirs dir ∧ look (candidate dir) = .error e ∧
          failure = .unknown (candidate dir) e) ∧
      (find look cwd start = .ok none ↔ ∀ dir ∈ dirs, Missing look dir) := by
  have starts := startsIn_startDirectory look cwd start
  have place := starts.isPlace (Path.isPlace_absolute rooted _)
  exact ⟨_, Path.ancestors (startDirectory look cwd start), starts, Path.ascends_ancestors place,
    Path.getLast?_ancestors _, findIn_answers look _⟩

/-- There are settings two directories above a file, and beside them a directory with links in a
circle. -/
def settingsAbove (path : Bytes) : Except DiskError Entry :=
  if path = utf8 "/w/a/b/c.js" ∨ path = utf8 "/w/docmark.toml" then .ok (.file [])
  else if path = utf8 "/w/d/docmark.toml" then .error ⟨utf8 "stat", path, .tooManyLinks⟩
  else .error ⟨utf8 "stat", path, .notFound⟩

/-- From the file the settings are found; from the other directory they are not, although there are
settings above it. -/
theorem find_nearest_settingsAbove :
    Path.isAbsolute (utf8 "/w") = true ∧
    (∃ first dirs dir, StartsIn settingsAbove (utf8 "/w/a/b/c.js") first ∧
      Path.Ascends first dirs ∧ FirstKnown settingsAbove dirs dir ∧
      candidate dir = utf8 "/w/docmark.toml") ∧
    find settingsAbove (utf8 "/w") (utf8 "a/b/c.js") = .ok (some (utf8 "/w/docmark.toml")) ∧
    (∃ first dirs dir, StartsIn settingsAbove (utf8 "/w/d") first ∧ Path.Ascends first dirs ∧
      FirstKnown settingsAbove dirs dir ∧ candidate dir = utf8 "/w/d/docmark.toml") ∧
    ∃ failure, find settingsAbove (utf8 "/w") (utf8 "d") = .error failure := by
  have rooted : Path.isAbsolute (utf8 "/w") = true := by decide
  have found : find settingsAbove (utf8 "/w") (utf8 "a/b/c.js")
      = .ok (some (utf8 "/w/docmark.toml")) := by rfl
  have failed : find settingsAbove (utf8 "/w") (utf8 "d") = .error (.unknown
      (utf8 "/w/d/docmark.toml") ⟨utf8 "stat", utf8 "/w/d/docmark.toml", .tooManyLinks⟩) := by rfl
  obtain ⟨first, dirs, starts, ascends, -, answer, -, -⟩ :=
    find_nearest settingsAbove (utf8 "/w") (utf8 "a/b/c.js") rooted
  obtain ⟨first', dirs', starts', ascends', -, -, answer', -⟩ :=
    find_nearest settingsAbove (utf8 "/w") (utf8 "d") rooted
  obtain ⟨dir, known, -, here⟩ := (answer _).1 found
  obtain ⟨dir', e, known', -, there⟩ := (answer' _).1 failed
  exact ⟨rooted, ⟨first, dirs, dir, starts, ascends, known, here.symm⟩, found,
    ⟨first', dirs', dir', starts', ascends', known', (Failure.unknown.inj there).1.symm⟩, _, failed⟩

end Config

end Marginalia
