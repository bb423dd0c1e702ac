import Marginalia.Path
import Marginalia.Proofs.Text.Lines

/-!
# Clean paths

A path is cleaned by taking it apart at its slashes, putting the elements on a
stack, and joining what is left on the stack.  A stack that arises in this way is
clean: it holds names, and below them, in a path that does not start at the root,
steps to the parent directory (`CleanStack`).  A clean stack is joined to a path
that is taken apart into the same stack, so a clean path stays as it is
(`clean_clean`), and its elements and whether it starts at the root say which path
it is.

A name that is joined to a path becomes its last element
(`cleanElements_join_name`).
-/

namespace Marginalia

set_option autoImplicit false

namespace Bytes

theorem splitAtByte_cons_sep (sep : UInt8) (s : Bytes) :
    splitAtByte sep (sep :: s) = [] :: splitAtByte sep s := by
  rw [splitAtByte, if_pos rfl]

/-- A separator ends a piece. -/
theorem splitAtByte_append (sep : UInt8) (s t : Bytes) :
    splitAtByte sep (s ++ sep :: t) = splitAtByte sep s ++ splitAtByte sep t := by
  induction s with
  | nil => rw [List.nil_append, splitAtByte_cons_sep]; rfl
  | cons b s ih =>
    rw [List.cons_append, splitAtByte, splitAtByte, ih]
    by_cases same : b = sep
    · rw [if_pos same, if_pos same, List.cons_append]
    · rw [if_neg same, if_neg same]
      cases pieces : splitAtByte sep s with
      | nil => exact absurd pieces (splitAtByte_ne_nil sep s)
      | cons piece more => rfl

theorem notMem_of_mem_splitAtByte {sep : UInt8} {s piece : Bytes}
    (member : piece ∈ splitAtByte sep s) : sep ∉ piece := by
  induction s generalizing piece with
  | nil =>
    rw [splitAtByte, List.mem_singleton] at member
    simp [member]
  | cons b s ih =>
    rw [splitAtByte] at member
    split at member
    next =>
      rcases List.mem_cons.1 member with rfl | member
      · simp
      · exact ih member
    next other =>
      cases pieces : splitAtByte sep s with
      | nil => exact absurd pieces (splitAtByte_ne_nil sep s)
      | cons first more =>
        rw [pieces] at member ih
        rcases List.mem_cons.1 member with rfl | member
        · have firstFree : sep ∉ first := ih List.mem_cons_self
          simp [firstFree, Ne.symm other]
        · exact ih (List.mem_cons_of_mem _ member)

theorem join_cons_cons (sep a b : Bytes) (parts : List Bytes) :
    join sep (a :: b :: parts) = a ++ sep ++ join sep (b :: parts) := by
  simp [join]

theorem join_singleton (sep a : Bytes) : join sep [a] = a := by simp [join]

theorem exists_join_cons (sep a : Bytes) (parts : List Bytes) :
    ∃ rest, join sep (a :: parts) = a ++ rest := by
  cases parts with
  | nil => exact ⟨[], by rw [join_singleton, List.append_nil]⟩
  | cons b parts => exact ⟨sep ++ join sep (b :: parts), by rw [join_cons_cons, List.append_assoc]⟩

/-- Pieces that are joined are taken apart again. -/
theorem splitAtByte_join {sep : UInt8} {parts : List Bytes} (some : parts ≠ [])
    (free : ∀ part ∈ parts, sep ∉ part) : splitAtByte sep (join [sep] parts) = parts := by
  induction parts with
  | nil => exact absurd rfl some
  | cons a parts ih =>
    have first := splitAtByte_of_notMem (free a List.mem_cons_self)
    cases parts with
    | nil => rw [join_singleton, first]
    | cons b parts =>
      have rest := ih (by simp) fun part member => free part (List.mem_cons_of_mem _ member)
      rw [join_cons_cons, List.append_assoc, List.singleton_append, splitAtByte_append, first, rest]
      rfl

end Bytes

namespace Path

open Bytes (slash)

/-! ## Clean stacks -/

/-- A name that an entry of a directory can have. -/
structure IsName (e : Bytes) : Prop where
  nonempty : e ≠ []
  ne_here : e ≠ here
  ne_up : e ≠ up
  noSlash : slash ∉ e

theorem isName_iff {e : Bytes} : IsName e ↔ e ≠ [] ∧ e ≠ here ∧ e ≠ up ∧ slash ∉ e :=
  ⟨fun ⟨nonempty, neHere, neUp, noSlash⟩ => ⟨nonempty, neHere, neUp, noSlash⟩,
    fun ⟨nonempty, neHere, neUp, noSlash⟩ => ⟨nonempty, neHere, neUp, noSlash⟩⟩

instance (e : Bytes) : Decidable (IsName e) := decidable_of_iff _ isName_iff.symm

/-- A stack of elements, the last first, that is clean: names, and below them, unless the path starts at
the root, steps to the parent directory. -/
inductive CleanStack (rooted : Bool) : List Bytes → Prop where
  | nil : CleanStack rooted []
  | up {stack : List Bytes} (free : rooted = false) (ups : ∀ e ∈ stack, e = Path.up) :
      CleanStack rooted (Path.up :: stack)
  | name {e : Bytes} {stack : List Bytes} (isName : IsName e) (below : CleanStack rooted stack) :
      CleanStack rooted (e :: stack)

variable {rooted : Bool} {stack : List Bytes} {e path name : Bytes}

theorem push_name (isName : IsName e) : push rooted stack e = e :: stack := by
  rw [push.eq_def, if_neg (not_or.2 ⟨isName.nonempty, isName.ne_here⟩), if_neg isName.ne_up]

/-- **One element more** leaves a clean stack clean. -/
theorem CleanStack.push (clean : CleanStack rooted stack) (noSlash : slash ∉ e) :
    CleanStack rooted (Path.push rooted stack e) := by
  rw [Path.push.eq_def]
  split
  next => exact clean
  next notSkipped =>
    split
    next isUp =>
      cases clean with
      | nil =>
        cases rooted with
        | true => exact .nil
        | false => exact .up rfl (by simp)
      | up free ups =>
        simp only [if_true]
        exact .up free (List.forall_mem_cons.2 ⟨rfl, ups⟩)
      | name isName below =>
        simp only [if_neg isName.ne_up]
        exact below
    next notUp =>
      rw [not_or] at notSkipped
      exact .name ⟨notSkipped.1, notSkipped.2, notUp, noSlash⟩ clean

/-- Steps to the parent directory are kept where there is nothing to take away. -/
theorem foldl_push_ups (free : rooted = false) (ups : ∀ e ∈ stack, e = up) :
    stack.reverse.foldl (push rooted) [] = stack := by
  induction stack with
  | nil => rfl
  | cons e stack ih =>
    obtain ⟨isUp, below⟩ := List.forall_mem_cons.1 ups
    rw [List.reverse_cons, List.foldl_append, ih below, List.foldl_cons, List.foldl_nil, isUp, free]
    cases stack with
    | nil => rfl
    | cons top rest =>
      rw [below top List.mem_cons_self]
      rfl

/-- The elements of a clean stack make the stack again. -/
theorem CleanStack.foldl_push (clean : CleanStack rooted stack) :
    stack.reverse.foldl (Path.push rooted) [] = stack := by
  induction clean with
  | nil => rfl
  | up free ups => exact foldl_push_ups free (List.forall_mem_cons.2 ⟨rfl, ups⟩)
  | name isName _ ih =>
    rw [List.reverse_cons, List.foldl_append, ih, List.foldl_cons, List.foldl_nil, push_name isName]

theorem CleanStack.nonempty_noSlash (clean : CleanStack rooted stack) (member : e ∈ stack) :
    e ≠ [] ∧ slash ∉ e := by
  have up_ok : Path.up ≠ [] ∧ slash ∉ Path.up := by decide
  induction clean with
  | nil => simp at member
  | up free ups =>
    rcases List.mem_cons.1 member with rfl | member
    · exact up_ok
    · rw [ups e member]
      exact up_ok
  | name isName _ ih =>
    rcases List.mem_cons.1 member with rfl | member
    · exact ⟨isName.nonempty, isName.noSlash⟩
    · exact ih member

/-! ## The elements of a path -/

/-- The elements of a path make a clean stack.  The induction is on the elements still to come. -/
theorem cleanStack_cleanElements (path : Bytes) :
    CleanStack (isAbsolute path) (cleanElements path).reverse := by
  have fold : ∀ (es stack : List Bytes), (∀ e ∈ es, slash ∉ e) →
      CleanStack (isAbsolute path) stack →
      CleanStack (isAbsolute path) (es.foldl (push (isAbsolute path)) stack) := by
    intro es
    induction es with
    | nil => exact fun stack _ clean => clean
    | cons e es ih =>
      intro stack free clean
      obtain ⟨noSlash, free⟩ := List.forall_mem_cons.1 free
      exact ih _ free (clean.push noSlash)
  rw [cleanElements, List.reverse_reverse]
  exact fold _ [] (fun e => Bytes.notMem_of_mem_splitAtByte) .nil

theorem isAbsolute_append {s t : Bytes} (nonempty : s ≠ []) :
    isAbsolute (s ++ t) = isAbsolute s := by
  cases s with
  | nil => exact absurd rfl nonempty
  | cons b s => rfl

theorem isAbsolute_of_noSlash {s : Bytes} (free : slash ∉ s) : isAbsolute s = false := by
  cases s with
  | nil => rfl
  | cons b s =>
    rw [List.mem_cons, not_or] at free
    simp [isAbsolute, Ne.symm free.1]

section OfElements

variable {es : List Bytes}

/-- A path that is joined from clean elements starts with a slash exactly if it is to start at the
root. -/
theorem isAbsolute_ofElements (clean : CleanStack rooted es.reverse) :
    isAbsolute (ofElements rooted es) = rooted := by
  cases rooted with
  | true => simp [ofElements, isAbsolute]
  | false =>
    cases es with
    | nil => rfl
    | cons e es =>
      obtain ⟨nonempty, noSlash⟩ := clean.nonempty_noSlash (e := e) (by simp)
      have first : isAbsolute (Bytes.join [slash] (e :: es)) = isAbsolute e := by
        cases es with
        | nil => rw [Bytes.join_singleton]
        | cons f es => rw [Bytes.join_cons_cons, List.append_assoc, isAbsolute_append nonempty]
      simp [ofElements, first, isAbsolute_of_noSlash noSlash]

/-- What is joined from clean elements is taken apart into them. -/
theorem cleanElements_ofElements (clean : CleanStack rooted es.reverse) :
    cleanElements (ofElements rooted es) = es := by
  have skip : ∀ stack, push rooted stack [] = stack := by
    intro stack
    rw [push.eq_def, if_pos (.inl rfl)]
  have apart : (elements (Bytes.join [slash] es)).foldl (push rooted) [] = es.reverse := by
    by_cases none : es = []
    · rw [none]
      exact skip []
    · have free : ∀ e ∈ es, slash ∉ e := fun e member =>
        (clean.nonempty_noSlash (List.mem_reverse.2 member)).2
      rw [elements, Bytes.splitAtByte_join none free]
      have again := clean.foldl_push
      rwa [List.reverse_reverse] at again
  have whole : (elements (ofElements rooted es)).foldl (push rooted) [] = es.reverse := by
    cases rooted with
    | true =>
      rw [ofElements, if_pos rfl, elements, Bytes.splitAtByte_cons_sep, List.foldl_cons, skip]
      exact apart
    | false =>
      rw [ofElements, if_neg Bool.false_ne_true]
      split
      next none =>
        rw [List.isEmpty_iff.1 none]
        rfl
      next => exact apart
  rw [cleanElements, isAbsolute_ofElements clean, whole, List.reverse_reverse]

theorem ofElements_ne_nil (clean : CleanStack rooted es.reverse) : ofElements rooted es ≠ [] := by
  cases rooted with
  | true => simp [ofElements]
  | false =>
    cases es with
    | nil => simp [ofElements, here]
    | cons e es =>
      obtain ⟨nonempty, -⟩ := clean.nonempty_noSlash (e := e) (by simp)
      cases es with
      | nil => simpa [ofElements, Bytes.join_singleton] using nonempty
      | cons f es => simp [ofElements, Bytes.join_cons_cons, nonempty]

end OfElements

theorem cleanElements_clean (path : Bytes) : cleanElements (clean path) = cleanElements path :=
  cleanElements_ofElements (cleanStack_cleanElements path)

theorem isAbsolute_clean (path : Bytes) : isAbsolute (clean path) = isAbsolute path :=
  isAbsolute_ofElements (cleanStack_cleanElements path)

/-- **A clean path stays as it is.** -/
theorem clean_clean (path : Bytes) : clean (clean path) = clean path := by
  rw [clean, cleanElements_clean, isAbsolute_clean, ← clean]

theorem clean_ne_nil (path : Bytes) : clean path ≠ [] :=
  ofElements_ne_nil (cleanStack_cleanElements path)

/-! ## Joining -/

/-- What is joined to a path follows it, and the whole is cleaned. -/
theorem exists_join (nonempty : path ≠ []) (more : List Bytes) :
    ∃ rest, join (path :: more) = clean (path ++ rest) := by
  have kept : (path :: more).filter (fun p => !p.isEmpty)
      = path :: more.filter fun p => !p.isEmpty := by simp [nonempty]
  obtain ⟨rest, joined⟩ := Bytes.exists_join_cons [slash] path (more.filter fun p => !p.isEmpty)
  rw [join, kept]
  exact ⟨rest, congrArg clean joined⟩

theorem join_ne_nil (nonempty : path ≠ []) (more : List Bytes) : join (path :: more) ≠ [] := by
  obtain ⟨rest, joined⟩ := exists_join nonempty more
  rw [joined]
  exact clean_ne_nil _

theorem join_pair (nonempty : path ≠ []) (nonempty' : name ≠ []) :
    join [path, name] = clean (path ++ slash :: name) := by
  have kept : [path, name].filter (fun p => !p.isEmpty) = [path, name] := by
    simp [nonempty, nonempty']
  rw [join, kept]
  simp [Bytes.join]

/-- What follows a slash is put onto the elements before it. -/
theorem cleanElements_append (nonempty : path ≠ []) (more : Bytes) :
    cleanElements (path ++ slash :: more)
      = ((elements more).foldl (push (isAbsolute path)) (cleanElements path).reverse).reverse := by
  rw [cleanElements, isAbsolute_append nonempty, elements, Bytes.splitAtByte_append,
    List.foldl_append, cleanElements, List.reverse_reverse]
  rfl

theorem cleanElements_append_name (nonempty : path ≠ []) (isName : IsName name) :
    cleanElements (path ++ slash :: name) = cleanElements path ++ [name] := by
  rw [cleanElements_append nonempty, elements, Bytes.splitAtByte_of_notMem isName.noSlash,
    List.foldl_cons, List.foldl_nil, push_name isName, List.reverse_cons, List.reverse_reverse]

/-- **A name that is joined to a path becomes its last element.** -/
theorem cleanElements_join_name (nonempty : path ≠ []) (isName : IsName name) :
    cleanElements (join [path, name]) = cleanElements path ++ [name] := by
  rw [join_pair nonempty isName.nonempty, cleanElements_clean,
    cleanElements_append_name nonempty isName]

theorem clean_join_name (nonempty : path ≠ []) (isName : IsName name) :
    clean (join [path, name]) = join [path, name] := by
  rw [join_pair nonempty isName.nonempty, clean_clean]

end Path

end Marginalia
