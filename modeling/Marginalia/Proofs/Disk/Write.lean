import Marginalia.Disk
import Marginalia.Proofs.Keyed
import Marginalia.Proofs.Steps

/-!
# What was written is read

A file is written at the place that its path leads to, links followed.  That place is
one where nothing stands yet, or another file (`IsTarget`), so the directories and
links on the way to it are the same afterwards, and the same path leads to it when it
is read (`read_of_write`).
-/

namespace Marginalia.Disk

set_option autoImplicit false

variable {d : Disk} {place here : Place} {todo : List Bytes} {budget : Nat} {content : Bytes}

/-! ## The place that is written -/

/-- A place that a file may be written at: none but a file stands there. -/
structure IsTarget (d : Disk) (place : Place) : Prop where
  ne_root : place ≠ []
  free : ∀ e, d.at? place = some e → ∃ content, e = .file content

theorem at?_put_self (target : place ≠ []) (e : Entry) : (d.put place e).at? place = some e := by
  rw [at?, if_neg target, put, find?_replaced, if_pos rfl, Option.map_some]

theorem at?_put_of_ne {other : Place} (apart : other ≠ place) (e : Entry) :
    (d.put place e).at? other = d.at? other := by
  rw [at?, at?, put, find?_replaced, if_neg (Ne.symm apart)]

theorem isTarget_below {e : Bytes} (free : d.at? (here ++ [e]) = none) : d.IsTarget (here ++ [e]) where
  ne_root := by simp
  free := by
    intro found here
    rw [free] at here
    cases here

theorem isTarget_file {e old : Bytes} (file : d.at? (here ++ [e]) = some (.file old)) :
    d.IsTarget (here ++ [e]) where
  ne_root := by simp
  free := by
    intro found here
    rw [file] at here
    exact ⟨old, (Option.some.inj here).symm⟩

/-- **Walking to write ends at a place for a file.** -/
theorem isTarget_of_walkToWrite (found : d.walkToWrite budget todo here = .ok place) :
    d.IsTarget place := by
  fun_induction d.walkToWrite budget todo here with
  | case1 | case4 | case5 | case7 | case10 | case11 => cases found
  | case2 _ _ _ _ _ ih => exact ih found
  | case3 _ _ _ _ ih => exact ih found
  | case6 _ _ _ _ _ _ _ _ free => exact Except.ok.inj found ▸ isTarget_below free
  | case8 _ _ _ _ _ _ _ _ _ ih => exact ih found
  | case9 _ _ _ _ _ _ _ _ _ file => exact Except.ok.inj found ▸ isTarget_file file
  | case12 _ _ _ _ _ _ _ _ _ _ ih => exact ih found

/-- What is no file stands after the write where it stood before. -/
theorem at?_put_of_target {other : Place} {e : Entry} (target : d.IsTarget place)
    (stands : d.at? other = some e) (noFile : ∀ old, e ≠ .file old) (new : Entry) :
    (d.put place new).at? other = some e := by
  have apart : other ≠ place := by
    rintro rfl
    obtain ⟨old, file⟩ := target.free e stands
    exact noFile old file
  rw [at?_put_of_ne apart, stands]

/-- **After a file is written, the walk that led to its place finds it there.** -/
theorem walk_of_walkToWrite (found : d.walkToWrite budget todo here = .ok place) :
    (d.put place (.file content)).walk true budget todo here = .ok (place, .file content) := by
  have target := isTarget_of_walkToWrite found
  have written := at?_put_self (d := d) target.ne_root (.file content)
  fun_induction d.walkToWrite budget todo here with
  | case1 | case4 | case5 | case7 | case10 | case11 => cases found
  | case2 _ _ _ _ skipped ih => rw [walk, if_pos skipped, ih found]
  | case3 _ _ _ named ih => rw [walk, if_neg named, if_pos rfl, ih found]
  | case6 _ _ _ _ named notUp _ short _ last =>
    -- the file is new
    obtain rfl := Except.ok.inj found
    simp only [walk, if_neg named, if_neg notUp, if_neg short, written, if_pos last]
  | case8 _ _ _ _ named notUp _ short dir ih =>
    -- a directory on the way: it is not the place that was written
    have stands := at?_put_of_target target dir (by simp) (.file content)
    simp only [walk, if_neg named, if_neg notUp, if_neg short, stands, ih found]
  | case9 _ _ _ _ named notUp _ short _ _ last =>
    -- the file takes the place of another
    obtain rfl := Except.ok.inj found
    simp only [walk, if_neg named, if_neg notUp, if_neg short, written, if_pos last]
  | case12 _ _ _ named notUp _ short _ link _ ih =>
    -- a link on the way, or at the end: it is followed both times
    have stands := at?_put_of_target target link (by simp) (.file content)
    rw [walk, if_neg named, if_neg notUp, if_neg short, stands]
    simpa using ih found

/-- **What was written is read.** -/
theorem read_of_write {path : Bytes} {d' : Disk} (written : d.write path content = .ok d') :
    d'.read path = .ok content := by
  rw [write] at written
  split at written
  next place reached =>
    obtain ⟨s, begun, found⟩ := bind_eq_ok_iff.1 reached
    obtain rfl := Except.ok.inj written
    have begun' : (d.put place (.file content)).start path = .ok s := begun
    rw [read, find, begun']
    simp only [walk_of_walkToWrite found]
  next => cases written

/-! ## A disk with one file -/

/-- A disk with one file, which is in the root. -/
def single (content : Bytes) : Disk where
  entries := [([utf8 "a.js"], .file content)]

theorem write_single (old content : Bytes) :
    (single old).write (utf8 "a.js") content = .ok (single content) := by
  have begun : (single old).start (utf8 "a.js") = .ok ([utf8 "a.js"], []) := rfl
  have stands : (single old).at? [utf8 "a.js"] = some (.file old) := rfl
  have name : ¬ (utf8 "a.js" = [] ∨ utf8 "a.js" = Path.here) ∧ utf8 "a.js" ≠ Path.up ∧
      ¬ 255 < (utf8 "a.js").length := by decide
  have found : (single old).walkToWrite linkBudget [utf8 "a.js"] [] = .ok [utf8 "a.js"] := by
    simp [walkToWrite, name, stands]
  have replaced : (single old).put [utf8 "a.js"] (.file content) = single content := by
    simp [put, single]
  rw [write, begun, Except.bind]
  simp only [found, replaced]

theorem read_single (content : Bytes) : (single content).read (utf8 "a.js") = .ok content :=
  read_of_write (write_single content content)

end Marginalia.Disk
