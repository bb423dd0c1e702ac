import Marginalia.Source.Position
import Mathlib.Data.List.DropRight
import Mathlib.Data.List.TakeWhile

/-!
# Lines and columns, counted

The line index of a text lists its newlines.  The newlines before an offset are
those of what stands before the offset, so the line and the column of an offset
depend on nothing that follows it: the line counts the newlines, and the column
counts the bytes since the last of them (`lineColumn_eq`).

What stands before an offset can be cut at any newline.  The column does not
notice what comes before the newline, and the line only how many there are
(`lineColumn_cut`).
-/

namespace Marginalia

set_option autoImplicit false

/-! ## The newlines of a part of a text -/

theorem newlinesFrom_append (start : Nat) (s t : Bytes) :
    newlinesFrom start (s ++ t) = newlinesFrom start s ++ newlinesFrom (start + s.length) t := by
  induction s generalizing start with
  | nil => rfl
  | cons b s ih =>
    have shift : start + 1 + s.length = start + (b :: s).length := by
      rw [List.length_cons]
      omega
    rw [List.cons_append, newlinesFrom, newlinesFrom, ih, shift]
    split
    · rfl
    · rfl

theorem length_newlinesFrom (start : Nat) (s : Bytes) :
    (newlinesFrom start s).length = s.count Bytes.newline := by
  induction s generalizing start with
  | nil => rfl
  | cons b s ih =>
    rw [newlinesFrom, List.count_cons]
    split
    · rename_i hb
      rw [List.length_cons, ih, if_pos (beq_iff_eq.2 hb)]
    · rename_i hb
      rw [ih, if_neg (fun same => hb (eq_of_beq same)), Nat.add_zero]

theorem le_of_mem_newlinesFrom {start n : Nat} {s : Bytes} (h : n ∈ newlinesFrom start s) :
    start ≤ n := by
  induction s generalizing start with
  | nil => cases h
  | cons b rest ih =>
    rw [newlinesFrom] at h
    split at h
    · rcases List.mem_cons.1 h with rfl | later
      · exact Nat.le_refl _
      · exact Nat.le_of_succ_le (ih later)
    · exact Nat.le_of_succ_le (ih h)

/-- The newlines before an offset are those of what stands before it. -/
theorem takeWhile_newlinesFrom (start k : Nat) (s : Bytes) :
    ((newlinesFrom start s).takeWhile fun n => n < start + k) = newlinesFrom start (s.take k) := by
  induction s generalizing start k with
  | nil => rw [List.take_nil]; rfl
  | cons b rest ih =>
    cases k with
    | zero =>
      rw [List.take_zero, newlinesFrom, List.takeWhile_eq_nil_iff]
      intro nonempty first
      have bound := le_of_mem_newlinesFrom (List.get_mem _ ⟨0, nonempty⟩)
      have early := of_decide_eq_true first
      omega
    | succ k =>
      have shift : start + (k + 1) = start + 1 + k := by omega
      rw [List.take_succ_cons, newlinesFrom, newlinesFrom, ← ih (start + 1) k, shift]
      split
      · exact List.takeWhile_cons_of_pos (decide_eq_true (by omega))
      · rfl

/-! ## The line and the column of an offset -/

/-- The line and the column of what follows a text. -/
def lineColumnAfter (s : Bytes) : Nat × Nat :=
  (s.count Bytes.newline + 1, (s.rtakeWhile (· != Bytes.newline)).length + 1)

/-- The start of the last line, and the bytes on it, make up the text. -/
theorem lineStart_add_rtakeWhile (s : Bytes) :
    (newlinesFrom 0 s).getLast?.elim 0 (· + 1) + (s.rtakeWhile (· != Bytes.newline)).length
      = s.length := by
  induction s using List.reverseRecOn with
  | nil => rfl
  | append_singleton s b ih =>
    rw [newlinesFrom_append, Nat.zero_add, List.length_append, List.length_singleton]
    by_cases hb : b = Bytes.newline
    · rw [List.rtakeWhile_concat_neg _ _ _ (by simp [hb])]
      simp [newlinesFrom, hb]
    · rw [List.rtakeWhile_concat_pos _ _ _ (by simp [hb]), List.length_append,
        List.length_singleton, ← ih]
      simp only [newlinesFrom, if_neg hb, List.append_nil]
      omega

/-- The line of an offset is one more than the number of newlines before it. -/
theorem line_eq_count (content : Bytes) (offset : Nat) :
    (lineColumn (lineIndex content) offset).1 = (content.take offset).count Bytes.newline + 1 := by
  have before := takeWhile_newlinesFrom 0 offset content
  simp only [Nat.zero_add] at before
  simp only [lineColumn, lineIndex, before, length_newlinesFrom]

/-- **The line and the column of an offset are counted in what stands before it.** -/
theorem lineColumn_eq {content : Bytes} {offset : Nat} (inside : offset ≤ content.length) :
    lineColumn (lineIndex content) offset = lineColumnAfter (content.take offset) := by
  have before := takeWhile_newlinesFrom 0 offset content
  have start := lineStart_add_rtakeWhile (content.take offset)
  rw [List.length_take, Nat.min_eq_left inside] at start
  simp only [Nat.zero_add] at before
  simp only [lineColumn, lineIndex, before, length_newlinesFrom, lineColumnAfter]
  refine Prod.ext rfl ?_
  dsimp only
  omega

/-- A newline ends all that columns depend on. -/
theorem rtakeWhile_cut (s t : Bytes) :
    (s ++ Bytes.newline :: t).rtakeWhile (· != Bytes.newline) = t.rtakeWhile (· != Bytes.newline) := by
  induction t using List.reverseRecOn with
  | nil => rw [List.rtakeWhile_concat_neg _ _ _ (by simp), List.rtakeWhile_nil]
  | append_singleton t b ih =>
    have regroup : s ++ Bytes.newline :: (t ++ [b]) = s ++ Bytes.newline :: t ++ [b] := by
      rw [List.append_assoc, List.cons_append]
    rw [regroup]
    by_cases hb : b = Bytes.newline
    · rw [List.rtakeWhile_concat_neg _ _ _ (by simp [hb]),
        List.rtakeWhile_concat_neg _ _ _ (by simp [hb])]
    · rw [List.rtakeWhile_concat_pos _ _ _ (by simp [hb]),
        List.rtakeWhile_concat_pos _ _ _ (by simp [hb]), ih]

theorem lineColumnAfter_cut (s t : Bytes) :
    lineColumnAfter (s ++ Bytes.newline :: t)
      = ((lineColumnAfter t).1 + (s.count Bytes.newline + 1), (lineColumnAfter t).2) := by
  simp only [lineColumnAfter, rtakeWhile_cut, List.count_append, List.count_cons_self]
  refine Prod.ext ?_ rfl
  dsimp only
  omega

/-- What follows an offset does not change its line and column. -/
theorem lineColumn_append_left {s : Bytes} (t : Bytes) {offset : Nat} (inside : offset ≤ s.length) :
    lineColumn (lineIndex (s ++ t)) offset = lineColumn (lineIndex s) offset := by
  have inside' : offset ≤ (s ++ t).length := by
    rw [List.length_append]
    omega
  rw [lineColumn_eq inside, lineColumn_eq inside', List.take_append_of_le_length inside]

/-- After a newline lines go on and columns start again. -/
theorem lineColumn_cut (s : Bytes) {t : Bytes} {offset : Nat} (inside : offset ≤ t.length) :
    lineColumn (lineIndex (s ++ Bytes.newline :: t)) (offset + (s.length + 1))
      = ((lineColumn (lineIndex t) offset).1 + (s.count Bytes.newline + 1),
        (lineColumn (lineIndex t) offset).2) := by
  have inside' : offset + (s.length + 1) ≤ (s ++ Bytes.newline :: t).length := by
    rw [List.length_append, List.length_cons]
    omega
  have taken : (s ++ Bytes.newline :: t).take (offset + (s.length + 1))
      = s ++ Bytes.newline :: t.take offset := by
    have count : offset + (s.length + 1) = s.length + (offset + 1) := by omega
    rw [count, List.take_length_add_append, List.take_succ_cons]
  rw [lineColumn_eq inside, lineColumn_eq inside', taken, lineColumnAfter_cut]

end Marginalia
