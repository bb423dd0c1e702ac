import Marginalia.Proofs.Source.Position
import Marginalia.Proofs.Text.Lines
import Marginalia.Source.File

/-!
# Positions and the texts of lines

A position is read off the line index of a file, and the text of a line is cut out
between two newlines of the index.  The two fit together: what stands on the line of
a position from its column on is what stands in the file from the offset on, up to
the next newline.  Positions grow with their offsets, and the lines of a file, joined
with newlines, are the file (`SourceFile.positions_and_lines`).

Everything here is proved along the lines of the text.  An offset is either on the
first line, newline included, or it is an offset of what follows that line.
-/

namespace Marginalia

set_option autoImplicit false

/-! ## The index of a text in lines -/

variable {piece : Bytes}

theorem newlinesFrom_add (start k : Nat) (s : Bytes) :
    newlinesFrom (start + k) s = (newlinesFrom start s).map (· + k) := by
  induction s generalizing start with
  | nil => rfl
  | cons b s ih =>
    have shift : start + k + 1 = start + 1 + k := by omega
    rw [newlinesFrom, newlinesFrom, shift, ih]
    split
    · rfl
    · rfl

theorem lineIndex_of_oneLine {s : Bytes} (oneLine : Bytes.newline ∉ s) : lineIndex s = [] := by
  apply List.eq_nil_of_length_eq_zero
  rw [lineIndex, length_newlinesFrom, List.count_eq_zero_of_not_mem oneLine]

theorem lineIndex_cut (absent : Bytes.newline ∉ piece) (rest : Bytes) :
    lineIndex (piece ++ Bytes.newline :: rest)
      = piece.length :: (lineIndex rest).map (· + (piece.length + 1)) := by
  have first : newlinesFrom 0 piece = [] := lineIndex_of_oneLine absent
  rw [lineIndex, newlinesFrom_append, first, newlinesFrom, if_pos rfl, lineIndex, ← newlinesFrom_add]
  simp only [List.nil_append, Nat.zero_add]

/-! ## The texts of lines -/

theorem lineText_first (absent : Bytes.newline ∉ piece) (rest : Bytes) :
    lineText (lineIndex (piece ++ Bytes.newline :: rest)) (piece ++ Bytes.newline :: rest) 1
      = piece := by
  rw [lineText, lineIndex_cut absent, List.getD_cons_zero, List.take_left']
  rfl

/-- The lines after the first are those of what follows it. -/
theorem lineText_next (absent : Bytes.newline ∉ piece) (rest : Bytes) (n : Nat) :
    lineText (lineIndex (piece ++ Bytes.newline :: rest)) (piece ++ Bytes.newline :: rest) (n + 2)
      = lineText (lineIndex rest) rest (n + 1) := by
  have regroup : piece ++ Bytes.newline :: rest = piece ++ [Bytes.newline] ++ rest := by simp
  have length : (piece ++ [Bytes.newline]).length = piece.length + 1 := by simp
  have upTo (m : Nat) : ((piece ++ Bytes.newline :: rest).take
      (((lineIndex rest).map (· + (piece.length + 1))).getD m
        (piece ++ Bytes.newline :: rest).length)).drop (piece.length + 1)
      = rest.take ((lineIndex rest).getD m rest.length) := by
    have stop : ((lineIndex rest).map (· + (piece.length + 1))).getD m
        (piece ++ Bytes.newline :: rest).length
        = (piece ++ [Bytes.newline]).length + (lineIndex rest).getD m rest.length := by
      simp only [List.getD_eq_getElem?_getD, List.getElem?_map]
      cases (lineIndex rest)[m]? with
      | none => simp; omega
      | some k => simp; omega
    rw [stop, regroup, List.take_length_add_append, List.drop_left' length]
  cases n with
  | zero =>
    simp only [lineText, lineIndex_cut absent, List.getElem?_cons_zero, List.getD_cons_succ]
    exact upTo 0
  | succ n =>
    simp only [lineText, lineIndex_cut absent, List.getElem?_cons_succ, List.getElem?_map,
      List.getD_cons_succ]
    cases (lineIndex rest)[n]? with
    | none => rfl
    | some before =>
      have shift : before + (piece.length + 1) + 1 = piece.length + 1 + (before + 1) := by omega
      simp only [Option.map_some, shift, ← List.drop_drop, upTo]

/-- **The text of a line is a piece of the text split at its newlines.** -/
theorem lineText_eq_getD (content : Bytes) (n : Nat) :
    lineText (lineIndex content) content (n + 1) = content.lines.getD n [] := by
  induction content using Bytes.lines_induction generalizing n with
  | oneLine s oneLine =>
    rw [Bytes.lines, Bytes.splitAtByte_of_notMem oneLine, lineIndex_of_oneLine oneLine]
    cases n with
    | zero => exact List.take_length
    | succ n => rfl
  | line piece rest absent ih =>
    rw [Bytes.lines, Bytes.splitAtByte_cut absent]
    cases n with
    | zero => exact lineText_first absent rest
    | succ n =>
      rw [lineText_next absent]
      exact ih n

/-- The lines of a text, joined with newlines, are the text. -/
theorem join_lineTexts (content : Bytes) :
    Bytes.join [Bytes.newline] ((List.range (content.count Bytes.newline + 1)).map fun i =>
      lineText (lineIndex content) content (i + 1)) = content := by
  have lines : ((List.range (content.count Bytes.newline + 1)).map fun i =>
      lineText (lineIndex content) content (i + 1)) = content.lines := by
    apply List.ext_getElem
    · rw [List.length_map, List.length_range, Bytes.lines, Bytes.length_splitAtByte]
    · intro i inside inside'
      rw [List.getElem_map, List.getElem_range, lineText_eq_getD, List.getD_eq_getElem?_getD,
        List.getElem?_eq_getElem inside', Option.getD_some]
  rw [lines]
  exact Bytes.join_splitAtByte Bytes.newline content

theorem lineText_beyond {content : Bytes} {n : Nat} (beyond : content.count Bytes.newline + 1 < n) :
    lineText (lineIndex content) content n = [] := by
  obtain ⟨n, rfl⟩ : ∃ m, n = m + 1 := ⟨n - 1, by omega⟩
  have absent : content.lines[n]? = none := by
    rw [List.getElem?_eq_none_iff, Bytes.lines, Bytes.length_splitAtByte]
    omega
  rw [lineText_eq_getD, List.getD_eq_getElem?_getD, absent, Option.getD_none]

/-! ## The position of an offset -/

/-- An offset of a text is on its first line, or it is an offset of what follows. -/
theorem offset_cases {rest : Bytes} {offset : Nat}
    (inside : offset ≤ (piece ++ Bytes.newline :: rest).length) :
    offset ≤ piece.length ∨ ∃ k ≤ rest.length, offset = k + (piece.length + 1) := by
  rw [List.length_append, List.length_cons] at inside
  rcases Nat.lt_or_ge piece.length offset with beyond | onLine
  · exact .inr ⟨offset - (piece.length + 1), by omega, by omega⟩
  · exact .inl onLine

theorem lineColumn_of_oneLine {s : Bytes} (oneLine : Bytes.newline ∉ s) (offset : Nat) :
    lineColumn (lineIndex s) offset = (1, offset + 1) := by
  rw [lineIndex_of_oneLine oneLine]
  rfl

theorem lineColumn_first (absent : Bytes.newline ∉ piece) (rest : Bytes) {offset : Nat}
    (onLine : offset ≤ piece.length) :
    lineColumn (lineIndex (piece ++ Bytes.newline :: rest)) offset = (1, offset + 1) := by
  rw [lineColumn_append_left _ onLine, lineColumn_of_oneLine absent]

theorem lineColumn_next (absent : Bytes.newline ∉ piece) {rest : Bytes} {k : Nat}
    (inside : k ≤ rest.length) :
    lineColumn (lineIndex (piece ++ Bytes.newline :: rest)) (k + (piece.length + 1))
      = ((lineColumn (lineIndex rest) k).1 + 1, (lineColumn (lineIndex rest) k).2) := by
  rw [lineColumn_cut piece inside, List.count_eq_zero_of_not_mem absent]

theorem takeWhile_of_oneLine {s : Bytes} (oneLine : Bytes.newline ∉ s) :
    s.takeWhile (· != Bytes.newline) = s := by
  rw [List.takeWhile_eq_self_iff]
  intro b member
  rw [bne_iff_ne]
  rintro rfl
  exact oneLine member

/-- **The line of a position holds its column**, and from there on it is the text up to the next
newline. -/
theorem lineText_drop {content : Bytes} {offset : Nat} (inside : offset ≤ content.length) :
    (lineColumn (lineIndex content) offset).2 - 1
        ≤ (lineText (lineIndex content) content (lineColumn (lineIndex content) offset).1).length ∧
      (lineText (lineIndex content) content (lineColumn (lineIndex content) offset).1).drop
          ((lineColumn (lineIndex content) offset).2 - 1)
        = (content.drop offset).takeWhile (· != Bytes.newline) := by
  induction content using Bytes.lines_induction generalizing offset with
  | oneLine s oneLine =>
    have line : lineText (lineIndex s) s 1 = s := by
      rw [lineIndex_of_oneLine oneLine]
      exact List.take_length
    simp only [lineColumn_of_oneLine oneLine, line, Nat.add_sub_cancel]
    refine ⟨inside, (takeWhile_of_oneLine ?_).symm⟩
    intro member
    exact oneLine (List.mem_of_mem_drop member)
  | line piece rest absent ih =>
    rcases offset_cases inside with onLine | ⟨k, below, rfl⟩
    · simp only [lineColumn_first absent rest onLine, lineText_first absent, Nat.add_sub_cancel]
      refine ⟨onLine, ?_⟩
      have solid : ∀ b ∈ piece.drop offset, (b != Bytes.newline) = true := by
        intro b member
        rw [bne_iff_ne]
        rintro rfl
        exact absent (List.mem_of_mem_drop member)
      rw [List.drop_append_of_le_length onLine, List.takeWhile_append_of_pos solid,
        List.takeWhile_cons_of_neg (by simp), List.append_nil]
    · have split : (piece ++ Bytes.newline :: rest).drop (k + (piece.length + 1)) = rest.drop k := by
        rw [Nat.add_comm, ← List.drop_drop, ← List.drop_drop, List.drop_left' rfl]
        rfl
      simp only [lineColumn_next absent below, split]
      have number : (lineColumn (lineIndex rest) k).1 + 1
          = (rest.take k).count Bytes.newline + 2 := by rw [line_eq_count]
      rw [number, lineText_next absent, ← line_eq_count]
      exact ih below

/-- **Positions grow with their offsets.** -/
theorem lineColumn_lt {content : Bytes} {a b : Nat} (before : a < b) (inside : b ≤ content.length) :
    (lineColumn (lineIndex content) a).1 < (lineColumn (lineIndex content) b).1 ∨
      (lineColumn (lineIndex content) a).1 = (lineColumn (lineIndex content) b).1 ∧
        (lineColumn (lineIndex content) a).2 < (lineColumn (lineIndex content) b).2 := by
  induction content using Bytes.lines_induction generalizing a b with
  | oneLine s oneLine =>
    rw [lineColumn_of_oneLine oneLine a, lineColumn_of_oneLine oneLine b]
    exact .inr ⟨rfl, Nat.succ_lt_succ before⟩
  | line piece rest absent ih =>
    rcases offset_cases inside with onLine | ⟨l, below, rfl⟩
    · rw [lineColumn_first absent rest onLine,
        lineColumn_first absent rest (Nat.le_trans (Nat.le_of_lt before) onLine)]
      exact .inr ⟨rfl, Nat.succ_lt_succ before⟩
    · rcases offset_cases (Nat.le_trans (Nat.le_of_lt before) inside) with onLine | ⟨k, below', rfl⟩
      · left
        simp only [lineColumn_first absent rest onLine, lineColumn_next absent below, line_eq_count]
        omega
      · simp only [lineColumn_next absent below, lineColumn_next absent below']
        have follows := ih (show k < l by omega) below
        omega

/-! ## Files -/

/-- One position comes before another: on an earlier line, or on the same line in an earlier
column. -/
def Position.Before (p q : Position) : Prop :=
  p.line < q.line ∨ (p.line = q.line ∧ p.column < q.column)

namespace SourceFile

variable {f : SourceFile} {offset : UInt32}

theorem toNat_position (short : f.content.length + 1 < UInt32.size)
    (inside : offset.toNat ≤ f.content.length) :
    (f.position offset).line.toNat = (lineColumn (lineIndex f.content) offset.toNat).1 ∧
      (f.position offset).column.toNat = (lineColumn (lineIndex f.content) offset.toNat).2 := by
  have line : (lineColumn (lineIndex f.content) offset.toNat).1 ≤ offset.toNat + 1 := by
    have counted := List.count_le_length (a := Bytes.newline) (l := f.content.take offset.toNat)
    rw [List.length_take] at counted
    rw [line_eq_count]
    omega
  have column : (lineColumn (lineIndex f.content) offset.toNat).2 ≤ offset.toNat + 1 :=
    Nat.succ_le_succ (Nat.sub_le _ _)
  rw [UInt32.size] at short
  simp only [position, Position.ofOffset, index, Nat.toUInt32_eq, UInt32.toNat_ofNat']
  omega

/-- **Positions and lines are inverse to each other.**  From the column of a position on, its line is
the file from the offset on, up to the next newline; positions grow with their offsets; the lines,
joined with newlines, are the file; and there is nothing on line zero and beyond the last line. -/
theorem positions_and_lines (f : SourceFile) (short : f.content.length + 1 < UInt32.size) :
    (∀ offset : UInt32, offset.toNat ≤ f.content.length →
      1 ≤ (f.position offset).column.toNat ∧
      (f.position offset).column.toNat - 1 ≤ (f.line (f.position offset).line).length ∧
      (f.line (f.position offset).line).drop ((f.position offset).column.toNat - 1)
        = (f.content.drop offset.toNat).takeWhile (· != Bytes.newline)) ∧
    (∀ a b : UInt32, a < b → b.toNat ≤ f.content.length → (f.position a).Before (f.position b)) ∧
    Bytes.join [Bytes.newline] ((List.range (f.content.count Bytes.newline + 1)).map fun i =>
      f.line (i + 1).toUInt32) = f.content ∧
    f.line 0 = [] ∧
    ∀ n : UInt32, f.content.count Bytes.newline + 1 < n.toNat → f.line n = [] := by
  refine ⟨?_, ?_, ?_, rfl, fun n beyond => lineText_beyond beyond⟩
  · intro offset inside
    obtain ⟨line, column⟩ := toNat_position short inside
    rw [SourceFile.line, line, column]
    exact ⟨Nat.le_add_left _ _, lineText_drop inside⟩
  · intro a b before inside
    have order : a.toNat < b.toNat := before
    obtain ⟨line, column⟩ := toNat_position short (Nat.le_trans (Nat.le_of_lt order) inside)
    obtain ⟨line', column'⟩ := toNat_position short inside
    have grows := lineColumn_lt order inside
    rw [← line, ← line', ← column, ← column'] at grows
    rw [Position.Before, UInt32.lt_iff_toNat_lt, UInt32.lt_iff_toNat_lt, ← UInt32.toNat_inj]
    exact grows
  · have lines := join_lineTexts f.content
    have few : f.content.count Bytes.newline ≤ f.content.length := List.count_le_length
    have numbered : ((List.range (f.content.count Bytes.newline + 1)).map fun i =>
        f.line (i + 1).toUInt32)
        = (List.range (f.content.count Bytes.newline + 1)).map fun i =>
          lineText (lineIndex f.content) f.content (i + 1) := by
      apply List.map_congr_left
      intro i member
      have small : (i + 1).toUInt32.toNat = i + 1 := by
        have bound := List.mem_range.1 member
        rw [UInt32.size] at short
        rw [Nat.toUInt32_eq, UInt32.toNat_ofNat']
        omega
      rw [SourceFile.line, small, index]
    rw [numbered]
    exact lines

/-- Three lines, the second of them empty and the last one without a newline. -/
def gapped : SourceFile :=
  { id := 0, path := utf8 "gapped.c", content := utf8 "ab\n\nc", flags := .virtual }

/-- A newline belongs to the line that it ends, and the end of the file to the last line. -/
theorem positions_and_lines_gapped :
    gapped.content.length + 1 < UInt32.size ∧
    gapped.position 2 = ⟨1, 3⟩ ∧ (gapped.line 1).drop 2 = [] ∧
    gapped.position 5 = ⟨3, 2⟩ ∧ (gapped.line 3).drop 1 = [] ∧
    (gapped.position 2).Before (gapped.position 3) ∧
    Bytes.join [Bytes.newline] [gapped.line 1, gapped.line 2, gapped.line 3] = gapped.content ∧
    gapped.line 4 = [] := by
  have short : gapped.content.length + 1 < UInt32.size := by decide
  obtain ⟨inverse, grows, joined, -, beyond⟩ := positions_and_lines gapped short
  have newline : gapped.position 2 = ⟨1, 3⟩ := by decide
  have last : gapped.position 5 = ⟨3, 2⟩ := by decide
  have onFirst := (inverse 2 (by decide)).2.2
  have onLast := (inverse 5 (by decide)).2.2
  rw [newline] at onFirst
  rw [last] at onLast
  exact ⟨short, newline, onFirst, last, onLast, grows 2 3 (by decide) (by decide), joined,
    beyond 4 (by decide)⟩

end SourceFile

end Marginalia
