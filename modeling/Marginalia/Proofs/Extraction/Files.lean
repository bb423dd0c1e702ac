import Marginalia.Extraction.Files
import Marginalia.Proofs.Cache.History
import Marginalia.Proofs.Path.Clean
import Marginalia.Proofs.Steps
import Mathlib.Data.List.Nodup

/-!
# The paths of listed files

The files below a directory are found by joining the names of its entries to its
path, level by level.  On a disk that holds a tree, where every place stands for
one entry and is made of names, the elements of such a path are those of the
directory followed by the names that lead to the file.  So different files have
different paths, also after cleaning them, and the list is strictly increasing
(`listFiles_increasing`).
-/

namespace Marginalia

set_option autoImplicit false

open Marginalia.Path (IsName cleanElements)

theorem Path.below?_eq_some_iff {base path rest : List Bytes} :
    below? base path = some rest ↔ path = base ++ rest := by
  induction base generalizing path with
  | nil => simp [below?, eq_comm]
  | cons b base ih =>
    cases path with
    | nil => simp [below?]
    | cons p path =>
      rw [below?, List.cons_append, List.cons.injEq]
      by_cases same : b = p
      · rw [if_pos same, ih, same]
        simp
      · rw [if_neg same]
        simp [Ne.symm same]

/-- An extension that is asked for as it is written is found without a look at its case. -/
theorem hasExtension_of_mem {extensions : List Bytes} {path : Bytes}
    (member : Path.extension path ∈ extensions) : hasExtension extensions path = true := by
  have given : extensions.isEmpty = false := by
    cases extensions with
    | nil => cases member
    | cons => rfl
  rw [hasExtension, given]
  exact List.contains_iff_mem.2 (List.mem_map_of_mem member)

namespace Disk

/-- Every place stands for one entry and is made of names. -/
structure IsTree (d : Disk) : Prop where
  distinct : (d.entries.map Prod.fst).Nodup
  names : ∀ e ∈ d.entries, ∀ name ∈ e.1, IsName name

variable {d : Disk} {parent place : Place} {path x : Bytes} {wanted : Bytes → Bool} {depth : Nat}
  {child : Bytes × Entry} {files : List Bytes}

theorem childName?_eq_some_iff {name : Bytes} :
    childName? parent place = some name ↔ place = parent ++ [name] := by
  rw [← Path.below?_eq_some_iff, childName?]
  cases Path.below? parent place with
  | none => simp
  | some rest =>
    match rest with
    | [] => simp
    | [_] => simp
    | _ :: _ :: _ => simp

/-! ## Children -/

theorem perm_children (d : Disk) (parent : Place) :
    (d.children parent).Perm (d.entries.filterMap fun e => (childName? parent e.1).map (·, e.2)) :=
  List.mergeSort_perm _ _

theorem exists_of_mem_children (member : child ∈ d.children parent) :
    (parent ++ [child.1], child.2) ∈ d.entries := by
  have member := (d.perm_children parent).mem_iff.1 member
  obtain ⟨⟨place, entry⟩, present, named⟩ := List.mem_filterMap.1 member
  obtain ⟨name, found, rfl⟩ := Option.map_eq_some_iff.1 named
  rw [childName?_eq_some_iff] at found
  rwa [← found]

theorem IsTree.isName (tree : d.IsTree) (member : child ∈ d.children parent) : IsName child.1 :=
  tree.names _ (exists_of_mem_children member) _ (by simp)

/-- The entries of a directory have different names. -/
theorem IsTree.nodup_children (tree : d.IsTree) (parent : Place) :
    ((d.children parent).map Prod.fst).Nodup := by
  have names : (d.entries.filterMap fun e => (childName? parent e.1).map (·, e.2)).map Prod.fst
      = (d.entries.map Prod.fst).filterMap (childName? parent) := by
    rw [List.map_filterMap, List.filterMap_map]
    congr 1
    funext e
    rw [Option.map_map]
    exact Option.map_id'
  rw [((d.perm_children parent).map Prod.fst).nodup_iff, names]
  refine List.Nodup.filterMap (fun a a' name first second => ?_) tree.distinct
  rw [Option.mem_def, childName?_eq_some_iff] at first second
  rw [first, second]

/-- What is read of a directory are the entries at the place that its path leads to. -/
theorem exists_of_list {children : List (Bytes × Entry)} (read : d.list path = .ok children) :
    ∃ place, d.find true path = .ok (place, .dir) ∧ children = d.children place := by
  rw [list] at read
  split at read
  next place found =>
    rw [Except.ok.injEq] at read
    exact ⟨place, found, read.symm⟩
  next => cases read
  next => cases read

theorem IsTree.nodup_list (tree : d.IsTree) {children : List (Bytes × Entry)}
    (read : d.list path = .ok children) : (children.map Prod.fst).Nodup := by
  obtain ⟨place, -, rfl⟩ := exists_of_list read
  exact tree.nodup_children place

theorem IsTree.isName_of_list (tree : d.IsTree) {children : List (Bytes × Entry)}
    (read : d.list path = .ok children) (isChild : child ∈ children) : IsName child.1 := by
  obtain ⟨place, -, rfl⟩ := exists_of_list read
  exact tree.isName isChild

/-! ## Files below a directory -/

/-- The wanted files that a child of a directory is or holds. -/
def filesAt (d : Disk) (wanted : Bytes → Bool) (depth : Nat) (path : Bytes) (child : Bytes × Entry) :
    Except DiskError (List Bytes) :=
  let below := Path.join [path, child.1]
  if child.2.isDir then
    if skipsDirectory child.1 then .ok [] else d.filesBelow wanted depth below
  else .ok (if wanted below then [below] else [])

/-- **One level of the search**: the directory is read, and so is what each of its children holds. -/
theorem filesBelow_succ_eq_ok_iff :
    d.filesBelow wanted (depth + 1) path = .ok files ↔
      ∃ children part, d.list path = .ok children ∧
        (∀ child ∈ children, d.filesAt wanted depth path child = .ok (part child)) ∧
        files = children.flatMap part := by
  have step : d.filesBelow wanted (depth + 1) path = (do
      let children ← d.list path
      let parts ← children.mapM (d.filesAt wanted depth path)
      return parts.flatten) := rfl
  simp only [step, bind_eq_ok_iff, mapM_eq_ok_iff]
  constructor
  · rintro ⟨children, read, parts, ⟨part, each, rfl⟩, done⟩
    exact ⟨children, part, read, each, (Except.ok.inj done).symm⟩
  · rintro ⟨children, part, read, each, rfl⟩
    exact ⟨children, read, _, ⟨part, each, rfl⟩, rfl⟩

/-- What a child contributes: itself, or files below it. -/
theorem mem_filesAt (read : d.filesAt wanted depth path child = .ok files) (member : x ∈ files) :
    x = Path.join [path, child.1] ∨
      d.filesBelow wanted depth (Path.join [path, child.1]) = .ok files := by
  rw [filesAt] at read
  split at read
  · split at read
    · cases read
      cases member
    · exact .inr read
  · cases read
    split at member
    · exact .inl (List.mem_singleton.1 member)
    · cases member

theorem ne_nil_of_mem_filesBelow (nonempty : path ≠ [])
    (done : d.filesBelow wanted depth path = .ok files) (member : x ∈ files) : x ≠ [] := by
  induction depth generalizing path files with
  | zero =>
    cases done
    cases member
  | succ depth ih =>
    obtain ⟨children, part, -, each, rfl⟩ := filesBelow_succ_eq_ok_iff.1 done
    obtain ⟨child, isChild, member⟩ := List.mem_flatMap.1 member
    have below := Path.join_ne_nil nonempty [child.1]
    rcases mem_filesAt (each child isChild) member with rfl | done
    · exact below
    · exact ih below done member

/-- The path is clean, and its elements are those of a directory followed by names. -/
structure Extends (path x : Bytes) (names : List Bytes) : Prop where
  clean : Path.clean x = x
  elements : cleanElements x = cleanElements path ++ names

theorem extends_join {name : Bytes} (nonempty : path ≠ []) (isName : IsName name) :
    Extends path (Path.join [path, name]) [name] where
  clean := Path.clean_join_name nonempty isName
  elements := Path.cleanElements_join_name nonempty isName

theorem Extends.of_join {name : Bytes} {names : List Bytes} (nonempty : path ≠ [])
    (isName : IsName name) (extension : Extends (Path.join [path, name]) x names) :
    Extends path x (name :: names) where
  clean := extension.clean
  elements := by
    rw [extension.elements, Path.cleanElements_join_name nonempty isName, List.append_assoc]
    rfl

/-- **What is listed below a directory** extends its path, starting with the name of the child that it is
or that holds it.  The induction is on the depth. -/
theorem IsTree.extends_of_mem_filesAt (tree : d.IsTree) (nonempty : path ≠ []) (isName : IsName child.1)
    (read : d.filesAt wanted depth path child = .ok files) (member : x ∈ files) :
    ∃ names, Extends path x (child.1 :: names) := by
  induction depth generalizing path child files with
  | zero =>
    rcases mem_filesAt read member with rfl | done
    · exact ⟨[], extends_join nonempty isName⟩
    · cases done
      cases member
  | succ depth ih =>
    rcases mem_filesAt read member with rfl | done
    · exact ⟨[], extends_join nonempty isName⟩
    · obtain ⟨children, part, listed, each, rfl⟩ := filesBelow_succ_eq_ok_iff.1 done
      obtain ⟨grandchild, isGrandchild, member⟩ := List.mem_flatMap.1 member
      obtain ⟨names, extension⟩ := ih (Path.join_ne_nil nonempty _)
        (tree.isName_of_list listed isGrandchild) (each grandchild isGrandchild) member
      exact ⟨grandchild.1 :: names, extension.of_join nonempty isName⟩

theorem IsTree.clean_of_mem_filesBelow (tree : d.IsTree) (nonempty : path ≠ [])
    (done : d.filesBelow wanted depth path = .ok files) (member : x ∈ files) : Path.clean x = x := by
  cases depth with
  | zero =>
    cases done
    cases member
  | succ depth =>
    obtain ⟨children, part, read, each, rfl⟩ := filesBelow_succ_eq_ok_iff.1 done
    obtain ⟨child, isChild, member⟩ := List.mem_flatMap.1 member
    obtain ⟨_, extension⟩ := tree.extends_of_mem_filesAt nonempty (tree.isName_of_list read isChild)
      (each child isChild) member
    exact extension.clean

/-- No path is listed twice: what different children contribute differs in the element after those of
the path. -/
theorem IsTree.nodup_filesBelow (tree : d.IsTree) (nonempty : path ≠ [])
    (done : d.filesBelow wanted depth path = .ok files) : files.Nodup := by
  induction depth generalizing path files with
  | zero =>
    cases done
    exact List.nodup_nil
  | succ depth ih =>
    obtain ⟨children, part, read, each, rfl⟩ := filesBelow_succ_eq_ok_iff.1 done
    rw [List.nodup_flatMap]
    constructor
    · intro child isChild
      have here := each child isChild
      rw [filesAt] at here
      split at here
      · split at here
        · rw [← Except.ok.inj here]
          exact List.nodup_nil
        · exact ih (Path.join_ne_nil nonempty _) here
      · rw [← Except.ok.inj here]
        split
        · exact List.nodup_singleton _
        · exact List.nodup_nil
    · refine (List.pairwise_map.1 (tree.nodup_list read)).imp_of_mem
        fun {a b} isChild isChild' different => ?_
      intro x first second
      obtain ⟨_, extension⟩ := tree.extends_of_mem_filesAt nonempty (tree.isName_of_list read isChild)
        (each a isChild) first
      obtain ⟨_, extension'⟩ := tree.extends_of_mem_filesAt nonempty
        (tree.isName_of_list read isChild') (each b isChild') second
      have same := extension.elements.symm.trans extension'.elements
      rw [List.append_cancel_left_eq, List.cons.injEq] at same
      exact different same.1

/-! ## Listed files -/

variable {dir : Bytes} {extensions paths : List Bytes}

theorem ne_nil_of_find {follow : Bool} {found : Place × Entry}
    (ok : d.find follow path = .ok found) : path ≠ [] := by
  rintro rfl
  simp [find, start] at ok

/-- What a listing can be: the sorted files below a directory, or at most the path itself. -/
theorem listFiles_cases (listed : d.listFiles dir extensions = .ok paths) :
    dir ≠ [] ∧ ((∃ wanted depth files, d.filesBelow wanted depth dir = .ok files ∧
        paths = files.mergeSort fun a b => !Bytes.before b a) ∨
      paths = [dir] ∨ paths = []) := by
  rw [listFiles] at listed
  split at listed
  next => cases listed
  next found =>
    refine ⟨ne_nil_of_find found, .inl ?_⟩
    cases done : d.filesBelow (hasExtension extensions) (d.entries.length + 2) dir with
    | error e =>
      rw [done] at listed
      cases listed
    | ok files =>
      rw [done] at listed
      exact ⟨_, _, files, done, (Except.ok.inj listed).symm⟩
  next found =>
    refine ⟨ne_nil_of_find found, .inr ?_⟩
    rw [← Except.ok.inj listed]
    split
    · exact .inl rfl
    · exact .inr rfl

/-- A listed path is never empty. -/
theorem ne_nil_of_mem_listFiles (listed : d.listFiles dir extensions = .ok paths)
    (member : path ∈ paths) : path ≠ [] := by
  obtain ⟨nonempty, ⟨wanted, depth, files, done, rfl⟩ | rfl | rfl⟩ := listFiles_cases listed
  · exact ne_nil_of_mem_filesBelow nonempty done (List.mem_mergeSort.1 member)
  · rwa [List.mem_singleton.1 member]
  · cases member

/-- **A listing is strictly increasing**, and cleaning keeps its paths apart. -/
theorem IsTree.listFiles_increasing (tree : d.IsTree)
    (listed : d.listFiles dir extensions = .ok paths) :
    paths.Pairwise (· < ·) ∧ (paths.map Path.clean).Nodup := by
  obtain ⟨nonempty, ⟨wanted, depth, files, done, rfl⟩ | rfl | rfl⟩ := listFiles_cases listed
  · have perm := List.mergeSort_perm files fun a b => !Bytes.before b a
    have distinct := perm.nodup_iff.2 (tree.nodup_filesBelow nonempty done)
    have clean := List.map_congr_left fun x member =>
      tree.clean_of_mem_filesBelow nonempty done (perm.mem_iff.1 member)
    refine ⟨?_, by rwa [clean, List.map_id']⟩
    refine ((Bytes.pairwise_mergeSort _).and distinct).imp fun {a b} ordered => ?_
    by_contra after
    exact ordered.2 (List.le_antisymm ordered.1 (List.not_lt.1 after))
  · exact ⟨List.pairwise_singleton _ _, List.nodup_singleton _⟩
  · exact ⟨.nil, .nil⟩

end Disk

end Marginalia
