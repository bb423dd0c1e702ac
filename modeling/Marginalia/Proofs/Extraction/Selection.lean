import Marginalia.Proofs.Disk.Walk
import Marginalia.Proofs.Extraction.Files
import Mathlib.Data.List.Perm.Subperm
import Mathlib.Tactic.Choose

/-!
# Which files are listed

The files below a directory are found by reading it and entering the directories among
its children, except those that are left out (`Leads`).  If every directory that the
search comes to can be read, there is a listing, and it consists of all files that the
search comes to and that have one of the extensions (`mem_filesBelow_iff`).

Directories are read by their paths, and a path is cleaned when a name is joined to it.
As long as the cleaned path of the start leads to the start, too, the path of a
directory leads to its place (`Denotes`), and the files that the search comes to are
those that stand below the start with no directory above them that is left out
(`reaches_iff`): a condition on names alone, as on a disk that holds a tree the
directories are there because the file is.  For a path such as `link/..`, which means
another directory when it is cleaned, what is read below the start are the
directories of the same names there (`listFiles_astray`).

The names between the start and a file are the only ones that are looked at.  The name
of the directory that is asked for is not among them.
-/

namespace Marginalia.Disk

set_option autoImplicit false

open Bytes (dot)
open Marginalia.Path (IsName)

variable {d : Disk} {place : Place} {above names files : List Bytes} {name path path' x dir : Bytes}
  {entry : Entry} {wanted : Bytes → Bool} {depth : Nat} {child : Bytes × Entry}
  {children : List (Bytes × Entry)}

/-! ## The search -/

/-- A directory that is entered below the one that is asked for: its name does not start with a dot and
is not one of the names that are left out. -/
def Entered (name : Bytes) : Prop := name.head? ≠ some dot ∧ name ∉ skippedNames

instance (name : Bytes) : Decidable (Entered name) := inferInstanceAs (Decidable (_ ∧ _))

theorem skipsDirectory_eq_false_iff : skipsDirectory name = false ↔ Entered name := by
  have starts : Bytes.startsWith (utf8 ".") name = true ↔ name.head? = some dot := by
    cases name with
    | nil => decide
    | cons b name =>
      have bytes : utf8 "." = [dot] := rfl
      rw [bytes, Bytes.startsWith, List.isPrefixOf_iff_prefix, List.cons_prefix_cons, List.head?_cons]
      simp [eq_comm]
  rw [skipsDirectory, Bool.or_eq_false_iff, ← Bool.not_eq_true, ← Bool.not_eq_true, starts,
    List.contains_iff_mem, Entered, and_comm]

/-- The search goes from the directory with the first path down through directories with these names,
each read by its path and entered, and comes to the directory with the second path. -/
inductive Leads (d : Disk) : Bytes → List Bytes → Bytes → Prop where
  | here (path : Bytes) : Leads d path [] path
  | down {path path' name : Bytes} {names : List Bytes} {children : List (Bytes × Entry)}
      (read : d.list path = .ok children) (isChild : (name, .dir) ∈ children) (entered : Entered name)
      (rest : Leads d (Path.join [path, name]) names path') : Leads d path (name :: names) path'

/-- Every directory that the search comes to can be read. -/
def Readable (d : Disk) (path : Bytes) : Prop :=
  ∀ names path', d.Leads path names path' → ∃ children, d.list path' = .ok children

/-- The search comes to a directory, through the directories `above`, that has a child with this name
which is not a directory itself. -/
def Reaches (d : Disk) (path : Bytes) (above : List Bytes) (name : Bytes) : Prop :=
  ∃ path' children entry, d.Leads path above path' ∧ d.list path' = .ok children ∧
    (name, entry) ∈ children ∧ entry ≠ .dir

theorem Leads.entered (leads : d.Leads path names path') : ∀ a ∈ names, Entered a := by
  induction leads with
  | here => simp
  | down _ _ entered _ ih => exact List.forall_mem_cons.2 ⟨entered, ih⟩

theorem Leads.isName (tree : d.IsTree) (leads : d.Leads path names path') : ∀ a ∈ names, IsName a := by
  induction leads with
  | here => simp
  | down read isChild _ _ ih => exact List.forall_mem_cons.2 ⟨tree.isName_of_list read isChild, ih⟩

/-- If the search can read a directory, it can read the one it started from. -/
theorem Leads.exists_list (leads : d.Leads path names path') (read : d.list path' = .ok children) :
    ∃ children', d.list path = .ok children' := by
  cases leads with
  | here => exact ⟨_, read⟩
  | down read _ _ _ => exact ⟨_, read⟩

theorem Readable.down (readable : d.Readable path) (read : d.list path = .ok children)
    (isChild : (name, .dir) ∈ children) (entered : Entered name) :
    d.Readable (Path.join [path, name]) :=
  fun _ _ rest => readable _ _ (.down read isChild entered rest)

theorem reaches_nil_iff : d.Reaches path [] name ↔
    ∃ children entry, d.list path = .ok children ∧ (name, entry) ∈ children ∧ entry ≠ .dir := by
  constructor
  · rintro ⟨path', children, entry, leads, found⟩
    cases leads with
    | here => exact ⟨children, entry, found⟩
  · rintro ⟨children, entry, found⟩
    exact ⟨path, children, entry, .here path, found⟩

theorem reaches_cons_iff {a : Bytes} : d.Reaches path (a :: above) name ↔
    ∃ children, d.list path = .ok children ∧ (a, .dir) ∈ children ∧ Entered a ∧
      d.Reaches (Path.join [path, a]) above name := by
  constructor
  · rintro ⟨path', children, entry, leads, found⟩
    cases leads with
    | down read isChild entered rest =>
      exact ⟨_, read, isChild, entered, path', children, entry, rest, found⟩
  · rintro ⟨_, read, isChild, entered, path', children, entry, rest, found⟩
    exact ⟨path', children, entry, .down read isChild entered rest, found⟩

/-- The path of a directory that the search comes to is made of the names that lead there. -/
theorem Leads.path_eq (tree : d.IsTree) (nonempty : path ≠ []) (leads : d.Leads path names path')
    (some : names ≠ []) : path' = Path.join (path :: names) := by
  induction leads with
  | here => exact absurd rfl some
  | @down path path' name names _ read isChild _ rest ih =>
    by_cases none : names = []
    · subst none
      cases rest
      rfl
    · rw [ih (Path.join_ne_nil nonempty _) none]
      exact Path.join_join nonempty (tree.isName_of_list read isChild) (rest.isName tree) none

theorem readable_iff : d.Readable path ↔ ∃ children, d.list path = .ok children ∧
    ∀ name, (name, .dir) ∈ children → Entered name → d.Readable (Path.join [path, name]) := by
  constructor
  · intro readable
    obtain ⟨children, read⟩ := readable _ _ (.here path)
    exact ⟨children, read, fun name isChild entered => readable.down read isChild entered⟩
  · rintro ⟨children, read, below⟩ names path' leads
    cases leads with
    | here => exact ⟨children, read⟩
    | down read' isChild entered rest =>
      obtain rfl := Except.ok.inj (read.symm.trans read')
      exact below _ isChild entered _ _ rest

theorem Reaches.isName (tree : d.IsTree) (reaches : d.Reaches path above name) :
    ∀ a ∈ above ++ [name], IsName a := by
  obtain ⟨_, _, _, leads, read, isChild, -⟩ := reaches
  rw [List.forall_mem_append, List.forall_mem_singleton]
  exact ⟨leads.isName tree, tree.isName_of_list read isChild⟩

theorem mem_filesAt_iff (done : d.filesAt wanted depth path child = .ok files) :
    x ∈ files ↔
      (child.2 = .dir ∧ Entered child.1 ∧
        ∃ below, d.filesBelow wanted depth (Path.join [path, child.1]) = .ok below ∧ x ∈ below) ∨
      (child.2 ≠ .dir ∧ wanted (Path.join [path, child.1]) = true ∧ x = Path.join [path, child.1]) := by
  obtain ⟨name, entry⟩ := child
  rw [filesAt] at done
  have leaf : entry ≠ .dir → (x ∈ files ↔
      wanted (Path.join [path, name]) = true ∧ x = Path.join [path, name]) := by
    intro notDir
    have isLeaf : entry.isDir = false := by cases entry <;> trivial
    rw [isLeaf] at done
    cases done
    cases wanted (Path.join [path, name]) <;> simp
  by_cases isDir : entry = .dir
  · subst isDir
    cases skips : skipsDirectory name with
    | true =>
      have left : ¬ Entered name := fun entered => by
        rw [skipsDirectory_eq_false_iff.2 entered] at skips
        cases skips
      rw [skips] at done
      cases done
      simp [left]
    | false =>
      rw [skips] at done
      have below : d.filesBelow wanted depth (Path.join [path, name]) = .ok files := done
      simp [skipsDirectory_eq_false_iff.1 skips, below]
  · simp [leaf isDir, isDir]

/-- **Which files the search finds.**  The induction is on its depth; a child of the directory is the file
itself, or the first of the directories above it. -/
theorem IsTree.mem_filesBelow_iff (tree : d.IsTree) (nonempty : path ≠ [])
    (done : d.filesBelow wanted depth path = .ok files) :
    x ∈ files ↔ ∃ above name, x = Path.join (path :: (above ++ [name])) ∧ above.length < depth ∧
      d.Reaches path above name ∧ wanted x = true := by
  induction depth generalizing path files with
  | zero =>
    cases done
    simp
  | succ depth ih =>
    obtain ⟨children, part, read, each, rfl⟩ := filesBelow_succ_eq_ok_iff.1 done
    rw [List.mem_flatMap]
    constructor
    · rintro ⟨⟨a, entry⟩, isChild, member⟩
      have isName := tree.isName_of_list read isChild
      rcases (mem_filesAt_iff (each _ isChild)).1 member with
        ⟨isDir, entered, below, done, isBelow⟩ | ⟨notDir, isWanted, rfl⟩
      · obtain rfl : entry = .dir := isDir
        obtain ⟨above, name, rfl, deep, reaches, isWanted⟩ :=
          (ih (Path.join_ne_nil nonempty _) done).1 isBelow
        exact ⟨a :: above, name, Path.join_join nonempty isName (reaches.isName tree) (by simp),
          Nat.succ_lt_succ deep, reaches_cons_iff.2 ⟨_, read, isChild, entered, reaches⟩, isWanted⟩
      · exact ⟨[], a, rfl, Nat.succ_pos _, reaches_nil_iff.2 ⟨_, entry, read, isChild, notDir⟩, isWanted⟩
    · rintro ⟨above, name, rfl, deep, reaches, isWanted⟩
      cases above with
      | nil =>
        obtain ⟨children', entry, read', isChild, notDir⟩ := reaches_nil_iff.1 reaches
        obtain rfl := Except.ok.inj (read.symm.trans read')
        exact ⟨_, isChild, (mem_filesAt_iff (each _ isChild)).2 (.inr ⟨notDir, isWanted, rfl⟩)⟩
      | cons a above =>
        obtain ⟨children', read', isChild, entered, reaches⟩ := reaches_cons_iff.1 reaches
        obtain rfl := Except.ok.inj (read.symm.trans read')
        have isName := tree.isName_of_list read isChild
        have same := Path.join_join nonempty isName (reaches.isName tree) (by simp)
        have below : d.filesBelow wanted depth (Path.join [path, a]) = .ok (part (a, .dir)) := by
          rw [← each _ isChild, filesAt]
          simp [Entry.isDir, skipsDirectory_eq_false_iff.2 entered]
        refine ⟨_, isChild, ?_⟩
        rw [ih (Path.join_ne_nil nonempty _) below]
        exact ⟨above, name, same.symm, Nat.lt_of_succ_lt_succ deep, reaches, isWanted⟩

/-- **If every directory can be read, the search comes to an end.** -/
theorem Readable.exists_filesBelow (readable : d.Readable path) (wanted : Bytes → Bool) (depth : Nat) :
    ∃ files, d.filesBelow wanted depth path = .ok files := by
  induction depth generalizing path with
  | zero => exact ⟨[], rfl⟩
  | succ depth ih =>
    obtain ⟨children, read⟩ := readable _ _ (.here path)
    have each : ∀ child ∈ children, ∃ part, d.filesAt wanted depth path child = .ok part := by
      rintro ⟨name, entry⟩ isChild
      rw [filesAt]
      split
      next isDir =>
        obtain rfl : entry = .dir := by cases entry <;> trivial
        split
        next => exact ⟨_, rfl⟩
        next enters =>
          exact ih (readable.down read isChild (skipsDirectory_eq_false_iff.1 (Bool.not_eq_true _ ▸ enters)))
      next => exact ⟨_, rfl⟩
    choose! part each using each
    exact ⟨_, filesBelow_succ_eq_ok_iff.2 ⟨children, part, read, each, rfl⟩⟩

/-! ## Everything stands in a directory -/

/-- A disk that holds a tree in which everything stands in a directory. -/
structure IsFileTree (d : Disk) : Prop extends d.IsTree where
  parents : ∀ e ∈ d.entries, d.at? e.1.dropLast = some .dir

theorem mem_of_at? (some : place ≠ []) (stands : d.at? place = .some entry) :
    (place, entry) ∈ d.entries := by
  rw [at?, if_neg some, Option.map_eq_some_iff] at stands
  obtain ⟨e, found, rfl⟩ := stands
  have here : e.1 = place := by simpa using List.find?_some found
  rw [← here]
  exact List.mem_of_find?_eq_some found

theorem IsTree.at?_eq_some_iff (tree : d.IsTree) (some : place ≠ []) :
    d.at? place = .some entry ↔ (place, entry) ∈ d.entries := by
  refine ⟨mem_of_at? some, fun member => ?_⟩
  have found : (d.entries.find? fun e => e.1 = place) = .some (place, entry) := by
    cases first : d.entries.find? fun e => e.1 = place with
    | none => exact absurd (decide_eq_true rfl) (List.find?_eq_none.1 first _ member)
    | some e =>
      have here : e.1 = place := by simpa using List.find?_some first
      rw [List.inj_on_of_nodup_map tree.distinct (List.mem_of_find?_eq_some first) member here]
  rw [at?, if_neg some, found, Option.map_some]

/-- The children of a directory are what stands directly below its place. -/
theorem IsTree.mem_children_iff (tree : d.IsTree) :
    (name, entry) ∈ d.children place ↔ d.at? (place ++ [name]) = some entry := by
  rw [tree.at?_eq_some_iff (by simp), (d.perm_children place).mem_iff, List.mem_filterMap]
  constructor
  · rintro ⟨⟨_, _⟩, present, named⟩
    obtain ⟨_, found, same⟩ := Option.map_eq_some_iff.1 named
    cases same
    rwa [← childName?_eq_some_iff.1 found]
  · intro present
    exact ⟨_, present, by rw [childName?_eq_some_iff.2 rfl]; rfl⟩

namespace IsFileTree

/-- **Above everything that is there, there are directories.** -/
theorem dir_above (tree : d.IsFileTree) {before after : Place} (some : before ≠ []) (below : after ≠ [])
    (there : (before ++ after, entry) ∈ d.entries) : (before, .dir) ∈ d.entries := by
  induction after using List.reverseRecOn generalizing entry with
  | nil => exact absurd rfl below
  | append_singleton after last ih =>
    have parent := tree.parents _ there
    rw [← List.append_assoc, List.dropLast_concat] at parent
    have there' := mem_of_at? (by simp [some]) parent
    by_cases none : after = []
    · rwa [none, List.append_nil] at there'
    · exact ih none there'

/-- No entry is deeper below a place than there are entries: each step down leads to another one. -/
theorem length_le (tree : d.IsFileTree) (there : (place ++ names, entry) ∈ d.entries) :
    names.length ≤ d.entries.length := by
  have depths : List.range' (place.length + 1) names.length ⊆ d.entries.map fun e => e.1.length := by
    intro n member
    rw [List.mem_range'_1] at member
    have split : place ++ names
        = (place ++ names.take (n - place.length)) ++ names.drop (n - place.length) := by
      rw [List.append_assoc, List.take_append_drop]
    have length : (place ++ names.take (n - place.length)).length = n := by
      rw [List.length_append, List.length_take]
      omega
    obtain ⟨kind, present⟩ :
        ∃ kind, (place ++ names.take (n - place.length), kind) ∈ d.entries := by
      by_cases last : names.drop (n - place.length) = []
      · rw [split, last, List.append_nil] at there
        exact ⟨_, there⟩
      · rw [split] at there
        refine ⟨.dir, tree.dir_above ?_ last there⟩
        rw [← List.length_pos_iff, length]
        omega
    exact List.mem_map.2 ⟨_, present, length⟩
  have distinct : (List.range' (place.length + 1) names.length).Nodup := List.nodup_range'
  have count := (distinct.subperm depths).length_le
  rwa [List.length_range', List.length_map] at count

end IsFileTree

/-! ## Paths and places -/

/-- A path leads to a directory at a place, and so it does when it is cleaned. -/
structure Denotes (d : Disk) (path : Bytes) (place : Place) : Prop where
  found : d.find true path = .ok (place, .dir)
  cleaned : d.find true (Path.clean path) = .ok (place, .dir)

theorem Denotes.of_clean (cleaned : Path.clean path = path) (found : d.find true path = .ok (place, .dir)) :
    d.Denotes path place where
  found := found
  cleaned := by rw [cleaned, found]

theorem Denotes.list_eq (denotes : d.Denotes path place) : d.list path = .ok (d.children place) := by
  rw [list, denotes.found]

theorem Denotes.ne_nil (denotes : d.Denotes path place) : path ≠ [] := ne_nil_of_find denotes.found

/-- **A step down** leads to the place below. -/
theorem Denotes.down (denotes : d.Denotes path place) (isName : IsName name)
    (there : d.at? (place ++ [name]) = some .dir)
    (read : d.list (Path.join [path, name]) = .ok children) :
    d.Denotes (Path.join [path, name]) (place ++ [name]) := by
  obtain ⟨q, below, -⟩ := exists_of_list read
  have same : Path.join [Path.clean path, name] = Path.join [path, name] :=
    Path.join_clean denotes.ne_nil isName
  have below' := below
  rw [← same] at below'
  obtain rfl := find_join (Path.clean_clean path) isName denotes.cleaned there below'
  exact .of_clean (Path.clean_join_name denotes.ne_nil isName) below

/-- The search comes to the places with the names that lead there. -/
theorem Denotes.leads (tree : d.IsTree) (denotes : d.Denotes path place)
    (leads : d.Leads path names path') (read : d.list path' = .ok children) :
    d.Denotes path' (place ++ names) := by
  induction leads generalizing place with
  | here => rwa [List.append_nil]
  | @down path path' name names siblings readHere isChild _ rest ih =>
    obtain rfl := Except.ok.inj (denotes.list_eq.symm.trans readHere)
    obtain ⟨_, readBelow⟩ := rest.exists_list read
    have below := ih (denotes.down (tree.isName isChild) (tree.mem_children_iff.1 isChild) readBelow) read
    rwa [List.append_assoc] at below

/-- **The search comes to the files that stand below a place** with no directory above them that is left
out. -/
theorem IsFileTree.reaches_iff (tree : d.IsFileTree) (denotes : d.Denotes path place)
    (readable : d.Readable path) :
    d.Reaches path above name ↔
      (∃ entry, d.at? (place ++ (above ++ [name])) = some entry ∧ entry ≠ .dir) ∧
        ∀ a ∈ above, Entered a := by
  constructor
  · rintro ⟨path', children, entry, leads, read, isChild, notDir⟩
    have there := (denotes.leads tree.toIsTree leads read).list_eq
    obtain rfl := Except.ok.inj (there.symm.trans read)
    rw [tree.mem_children_iff, List.append_assoc] at isChild
    exact ⟨⟨entry, isChild, notDir⟩, leads.entered⟩
  · rintro ⟨⟨entry, stands, notDir⟩, entered⟩
    induction above generalizing path place with
    | nil =>
      exact reaches_nil_iff.2 ⟨_, entry, denotes.list_eq, tree.mem_children_iff.2 stands, notDir⟩
    | cons a above ih =>
      rw [List.forall_mem_cons] at entered
      have regroup : place ++ (a :: above ++ [name]) = place ++ [a] ++ (above ++ [name]) := by simp
      rw [regroup] at stands
      have above' := tree.dir_above (by simp) (by simp) (mem_of_at? (by simp) stands)
      have there := (tree.at?_eq_some_iff (by simp)).2 above'
      have isChild := tree.mem_children_iff.2 there
      have readable' := readable.down denotes.list_eq isChild entered.1
      obtain ⟨_, read⟩ := readable' _ _ (.here _)
      exact reaches_cons_iff.2 ⟨_, denotes.list_eq, isChild, entered.1,
        ih (denotes.down (tree.isName isChild) there read) readable' entered.2 stands⟩

/-- The search is deep enough: after the first step its paths are clean, so that it comes to places below
that of the first directory. -/
theorem IsFileTree.length_above_le (tree : d.IsFileTree) (nonempty : path ≠ [])
    (reaches : d.Reaches path above name) : above.length ≤ d.entries.length + 1 := by
  obtain ⟨path', children, entry, leads, read, -, -⟩ := reaches
  cases leads with
  | here => exact Nat.zero_le _
  | @down _ _ a names siblings readHere isChild _ rest =>
    have isName := tree.toIsTree.isName_of_list readHere isChild
    obtain ⟨_, readBelow⟩ := rest.exists_list read
    obtain ⟨q, found, -⟩ := exists_of_list readBelow
    have denotes := (Denotes.of_clean (Path.clean_join_name nonempty isName) found).leads
      tree.toIsTree rest read
    rw [List.length_cons]
    by_cases none : names = []
    · rw [none]
      exact Nat.succ_le_succ (Nat.zero_le _)
    · have there := mem_of_at? (by simp [none]) (at?_of_find denotes.found)
      exact Nat.succ_le_succ (tree.length_le there)

/-! ## Listings -/

/-- A name has one of the extensions without regard to case, or one of the default ones if none are
given. -/
def Named (extensions : List Bytes) (name : Bytes) : Prop :=
  Unicode.lower (Path.extension name)
    ∈ (if extensions = [] then defaultExtensions else extensions).map Unicode.lower

/-- A file below a place that is to be listed: it is there and no directory, it has one of the
extensions, and no directory above it is left out. -/
structure Selected (d : Disk) (extensions : List Bytes) (place : Place) (above : List Bytes)
    (name : Bytes) : Prop where
  stands : ∃ entry, d.at? (place ++ (above ++ [name])) = some entry ∧ entry ≠ .dir
  named : Named extensions name
  entered : ∀ a ∈ above, Entered a

theorem hasExtension_iff {extensions : List Bytes} :
    hasExtension extensions path = true ↔ Named extensions path := by
  rw [hasExtension, List.contains_iff_mem, Named]
  simp only [List.isEmpty_iff]

theorem Reaches.hasExtension_iff (tree : d.IsTree) (nonempty : path ≠ []) {extensions : List Bytes}
    (reaches : d.Reaches path above name) :
    hasExtension extensions (Path.join (path :: (above ++ [name]))) = true ↔ Named extensions name := by
  rw [Disk.hasExtension_iff, Named, Path.extension_join nonempty (reaches.isName tree), Named]

/-- There is a listing, of the files that the search comes to and that have one of the extensions. -/
theorem IsFileTree.exists_listFiles (tree : d.IsFileTree) (found : d.find false dir = .ok (place, .dir))
    (readable : d.Readable dir) (extensions : List Bytes) :
    ∃ paths, d.listFiles dir extensions = .ok paths ∧
      ∀ x, x ∈ paths ↔ ∃ above name, x = Path.join (dir :: (above ++ [name])) ∧
        d.Reaches dir above name ∧ Named extensions name := by
  have nonempty := ne_nil_of_find found
  obtain ⟨files, done⟩ :=
    readable.exists_filesBelow (hasExtension extensions) (d.entries.length + 2)
  have listed : d.listFiles dir extensions = .ok (files.mergeSort fun a b => !Bytes.before b a) := by
    rw [listFiles, found]
    simp only [done, Except.map]
  refine ⟨_, listed, fun x => ?_⟩
  rw [List.mem_mergeSort, tree.mem_filesBelow_iff nonempty done]
  constructor
  · rintro ⟨above, name, rfl, -, reaches, isWanted⟩
    exact ⟨above, name, rfl, reaches, (reaches.hasExtension_iff tree.toIsTree nonempty).1 isWanted⟩
  · rintro ⟨above, name, rfl, reaches, named⟩
    have deep := tree.length_above_le nonempty reaches
    exact ⟨above, name, rfl, by omega, reaches,
      (reaches.hasExtension_iff tree.toIsTree nonempty).2 named⟩

/-- **Which files are listed.**  For every disk, every path that leads to a directory and all extensions,
if every directory that the search comes to can be read: the listing is strictly increasing and consists
of the paths of the files that the search comes to, as far as they have one of the extensions.  If the
path leads to the same directory when it is cleaned, these are exactly the files that stand below it, with
no directory above them that is left out.  The directory itself is entered whatever its name, and it is
the only one with its path. -/
theorem IsFileTree.listFiles_selects (tree : d.IsFileTree) (found : d.find false dir = .ok (place, .dir))
    (readable : d.Readable dir) (extensions : List Bytes) :
    ∃ paths, d.listFiles dir extensions = .ok paths ∧ paths.Pairwise (· < ·) ∧
      (∀ x, x ∈ paths ↔ ∃ above name, x = Path.join (dir :: (above ++ [name])) ∧
        d.Reaches dir above name ∧ Named extensions name) ∧
      (d.find true (Path.clean dir) = .ok (place, .dir) →
        ∀ x, x ∈ paths ↔ ∃ above name, x = Path.join (dir :: (above ++ [name])) ∧
          d.Selected extensions place above name) ∧
      ∀ names path, d.Leads dir names path → names ≠ [] → path ≠ dir := by
  have nonempty := ne_nil_of_find found
  obtain ⟨paths, listed, reached⟩ := tree.exists_listFiles found readable extensions
  refine ⟨paths, listed, (tree.listFiles_increasing listed).1, reached, fun cleaned x => ?_, ?_⟩
  · have denotes : d.Denotes dir place := ⟨find_follow found, cleaned⟩
    rw [reached]
    refine exists_congr fun above => exists_congr fun name => and_congr_right fun _ => ?_
    rw [tree.reaches_iff denotes readable]
    exact ⟨fun ⟨⟨stands, entered⟩, named⟩ => ⟨stands, named, entered⟩,
      fun selected => ⟨⟨selected.stands, selected.entered⟩, selected.named⟩⟩
  · intro names path leads some
    rw [leads.path_eq tree.toIsTree nonempty some]
    exact Path.join_cons_ne nonempty (leads.isName tree.toIsTree) some

/-! ## A hidden directory, and the way back from a link -/

/-- A hidden directory with a directory of source files, a link and a directory of dependencies; beside
it a link to the latter, and another directory with the first name. -/
def hidden : Disk where
  entries :=
    [([utf8 ".o"], .dir), ([utf8 ".o", utf8 "s"], .dir), ([utf8 ".o", utf8 "s", utf8 "a.go"], .file []),
     ([utf8 ".o", utf8 "s.go"], .link (utf8 "gone")), ([utf8 ".o", utf8 "vendor"], .dir),
     ([utf8 ".o", utf8 "vendor", utf8 "v.go"], .file []), ([utf8 "l"], .link (utf8 ".o/vendor")),
     ([utf8 "s"], .dir), ([utf8 "s", utf8 "b.go"], .file [])]

theorem isFileTree_hidden : hidden.IsFileTree where
  distinct := by decide
  names := by decide
  parents := by decide

theorem at?_hidden :
    hidden.at? [utf8 ".o"] = some .dir ∧ hidden.at? [utf8 ".o", utf8 "s"] = some .dir ∧
    hidden.at? [utf8 ".o", utf8 "vendor"] = some .dir ∧ hidden.at? [utf8 "s"] = some .dir ∧
    hidden.at? [utf8 "l"] = some (.link (utf8 ".o/vendor")) := by
  decide

/-- The walk along these elements takes each of them for a name. -/
theorem names_hidden : ∀ name ∈ [utf8 ".o", utf8 "s", utf8 "vendor", utf8 "l"],
    ¬ (name = [] ∨ name = Path.here) ∧ name ≠ Path.up ∧ ¬ 255 < name.length := by
  decide

theorem find_hidden :
    hidden.find true (utf8 ".o") = .ok ([utf8 ".o"], .dir) ∧
    hidden.find false (utf8 ".o") = .ok ([utf8 ".o"], .dir) ∧
    hidden.find true (utf8 ".o/s") = .ok ([utf8 ".o", utf8 "s"], .dir) ∧
    hidden.find false (utf8 "l/..") = .ok ([utf8 ".o"], .dir) ∧
    hidden.find true (utf8 "s") = .ok ([utf8 "s"], .dir) := by
  have starts :
      hidden.start (utf8 ".o") = .ok ([utf8 ".o"], []) ∧
      hidden.start (utf8 ".o/s") = .ok ([utf8 ".o", utf8 "s"], []) ∧
      hidden.start (utf8 "l/..") = .ok ([utf8 "l", Path.up], []) ∧
      hidden.start (utf8 "s") = .ok ([utf8 "s"], []) := by
    decide
  have target : Path.elements (utf8 ".o/vendor") = [utf8 ".o", utf8 "vendor"] ∧
      Path.isAbsolute (utf8 ".o/vendor") = false := by
    decide
  have up : ¬ (Path.up = [] ∨ Path.up = Path.here) := by decide
  simp [find, starts, walk, at?_hidden, names_hidden, linkBudget, target, up]

theorem children_hidden :
    hidden.children [utf8 ".o"]
      = [(utf8 "s", .dir), (utf8 "s.go", .link (utf8 "gone")), (utf8 "vendor", .dir)] ∧
    hidden.children [utf8 ".o", utf8 "s"] = [(utf8 "a.go", .file [])] ∧
    hidden.children [utf8 "s"] = [(utf8 "b.go", .file [])] := by
  refine ⟨?_, ?_, ?_⟩ <;>
  · rw [children, List.mergeSort_of_pairwise (by decide)]
    decide

theorem readable_hidden : hidden.Readable (utf8 ".o") := by
  obtain ⟨found, -, foundBelow, -, -⟩ := find_hidden
  obtain ⟨children, childrenBelow, -⟩ := children_hidden
  have read : hidden.list (utf8 ".o") = .ok (hidden.children [utf8 ".o"]) := by rw [list, found]
  have readBelow : hidden.list (utf8 ".o/s") = .ok (hidden.children [utf8 ".o", utf8 "s"]) := by
    rw [list, foundBelow]
  refine readable_iff.2 ⟨_, read, fun name isChild entered => ?_⟩
  obtain rfl : name = utf8 "s" := by
    have only : name = utf8 "s" ∨ name = utf8 "vendor" := by simpa [children] using isChild
    exact only.resolve_right fun left => absurd entered (by rw [left]; decide)
  have below : Path.join [utf8 ".o", utf8 "s"] = utf8 ".o/s" := by decide
  rw [below]
  exact readable_iff.2 ⟨_, readBelow, by simp [childrenBelow]⟩

theorem selected_hidden : hidden.Selected [utf8 ".go"] [utf8 ".o"] [utf8 "s"] (utf8 "a.go") ∧
    hidden.Selected [utf8 ".go"] [utf8 ".o"] [] (utf8 "s.go") where
  left := ⟨⟨.file [], by decide, by decide⟩, by unfold Named; decide +kernel, by decide⟩
  right := ⟨⟨.link (utf8 "gone"), by decide, by decide⟩, by unfold Named; decide +kernel, by decide⟩

/-- The way back from the link leads to the hidden directory, but its directory of source files is read
as the one beside it. -/
theorem listFiles_astray :
    hidden.listFiles (utf8 "l/..") [utf8 ".go"] = .ok [utf8 "s.go", utf8 "s/b.go"] := by
  obtain ⟨-, -, -, back, beside⟩ := find_hidden
  obtain ⟨children, -, childrenBeside⟩ := children_hidden
  have read : hidden.list (utf8 "l/..") = .ok (hidden.children [utf8 ".o"]) := by
    rw [list, find_follow back]
  have readBeside : hidden.list (utf8 "s") = .ok (hidden.children [utf8 "s"]) := by rw [list, beside]
  have wanted : hasExtension [utf8 ".go"] (utf8 "s/b.go") = true ∧
      hasExtension [utf8 ".go"] (utf8 "s.go") = true := by
    decide +kernel
  have joined : Path.join [utf8 "l/..", utf8 "s"] = utf8 "s" ∧
      Path.join [utf8 "l/..", utf8 "s.go"] = utf8 "s.go" ∧
      Path.join [utf8 "s", utf8 "b.go"] = utf8 "s/b.go" := by
    decide
  have skips : skipsDirectory (utf8 "s") = false ∧ skipsDirectory (utf8 "vendor") = true := by decide
  have apart : utf8 "s.go" ≠ utf8 "s" ∧ utf8 "vendor" ≠ utf8 "s" ∧ utf8 "vendor" ≠ utf8 "s.go" := by
    decide
  have below (depth : Nat) : hidden.filesBelow (hasExtension [utf8 ".go"]) (depth + 1) (utf8 "s")
      = .ok [utf8 "s/b.go"] :=
    filesBelow_succ_eq_ok_iff.2 ⟨_, fun _ => [utf8 "s/b.go"], readBeside, by
      simp [childrenBeside, filesAt, Entry.isDir, joined, wanted], by simp [childrenBeside]⟩
  have all (depth : Nat) : hidden.filesBelow (hasExtension [utf8 ".go"]) (depth + 2) (utf8 "l/..")
      = .ok [utf8 "s/b.go", utf8 "s.go"] :=
    filesBelow_succ_eq_ok_iff.2 ⟨_, fun child =>
      if child.1 = utf8 "s" then [utf8 "s/b.go"] else if child.1 = utf8 "s.go" then [utf8 "s.go"] else [],
      read, by simp [children, filesAt, Entry.isDir, joined, wanted, skips, below, apart],
      by simp [children, apart]⟩
  have sorted : [utf8 "s/b.go", utf8 "s.go"].mergeSort (fun a b => !Bytes.before b a)
      = [utf8 "s.go", utf8 "s/b.go"] := by
    have before : Bytes.before (utf8 "s.go") (utf8 "s/b.go") = true := by decide
    simp [List.mergeSort, List.MergeSort.Internal.splitInTwo, before]
  rw [listFiles, back]
  simp only [all, Except.map, sorted]

/-- The hidden directory is listed if it is asked for by its name. -/
theorem listFiles_hidden :
    hidden.IsFileTree ∧ hidden.find false (utf8 ".o") = .ok ([utf8 ".o"], .dir) ∧
    hidden.Readable (utf8 ".o") ∧
    (∃ paths, hidden.listFiles (utf8 ".o") [utf8 ".go"] = .ok paths ∧ utf8 ".o/s/a.go" ∈ paths) ∧
    hidden.find false (utf8 "l/..") = .ok ([utf8 ".o"], .dir) ∧
    ∃ paths, hidden.listFiles (utf8 "l/..") [utf8 ".go"] = .ok paths ∧ utf8 "s/a.go" ∉ paths := by
  have tree := isFileTree_hidden
  obtain ⟨followed, found, -, back, -⟩ := find_hidden
  obtain ⟨paths, listed, -, -, exactly, -⟩ :=
    tree.listFiles_selects found readable_hidden [utf8 ".go"]
  have cleaned : Path.clean (utf8 ".o") = utf8 ".o" := by decide
  rw [cleaned] at exactly
  have path : utf8 ".o/s/a.go" = Path.join (utf8 ".o" :: ([utf8 "s"] ++ [utf8 "a.go"])) := by decide
  have member := (exactly followed (utf8 ".o/s/a.go")).2 ⟨_, _, path, selected_hidden.1⟩
  exact ⟨tree, found, readable_hidden, ⟨paths, listed, member⟩, back, _, listFiles_astray, by decide⟩

end Marginalia.Disk
