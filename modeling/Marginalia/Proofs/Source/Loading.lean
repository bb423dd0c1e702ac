import Marginalia.Proofs.Disk.Write
import Marginalia.Proofs.Source.Lines
import Marginalia.Proofs.Text.Affixes
import Marginalia.Source.FileSet

/-!
# Loaded files and the files on disk

What is kept of a file differs from it at the ends of its lines and at its very
beginning.  Taking carriage returns away is done byte by byte, but it is a matter of
lines: a line that a newline ends loses one carriage return before that newline, if
there is one, and the last line loses nothing (`removeReturns_cut`,
`removeReturns_of_oneLine`).

So a line of the file is the line that is kept, with what it lost before it and behind
it (`lineText_loadContent`), and the flags tell whether any line lost something.  Lines
keep their numbers, and every offset of what is kept stands for a place of the file on
the same line (`exists_place_loadContent`).
-/

namespace Marginalia

set_option autoImplicit false

open Bytes (newline carriageReturn)

/-- The byte order mark of UTF-8. -/
def byteOrderMark : Bytes := [0xEF, 0xBB, 0xBF]

/-! ## Byte order marks -/

theorem removeMark_of_unmarked {s : Bytes} (unmarked : ¬ byteOrderMark <+: s) :
    removeMark s = (s, false) := by
  rw [removeMark.eq_def]
  split
  next rest => exact absurd ⟨rest, rfl⟩ unmarked
  next => rfl

/-- A text is the mark followed by what is kept of it, or it has no mark and is kept whole. -/
theorem removeMark_cases (s : Bytes) :
    (byteOrderMark ++ (removeMark s).1 = s ∧ (removeMark s).2 = true) ∨
    (¬ byteOrderMark <+: s ∧ removeMark s = (s, false)) := by
  by_cases marked : byteOrderMark <+: s
  · obtain ⟨rest, rfl⟩ := marked
    exact .inl ⟨rfl, rfl⟩
  · exact .inr ⟨marked, removeMark_of_unmarked marked⟩

theorem removeMark_snd_iff (s : Bytes) : (removeMark s).2 = true ↔ byteOrderMark <+: s := by
  rcases removeMark_cases s with ⟨split, removed⟩ | ⟨unmarked, kept⟩
  · exact ⟨fun _ => ⟨_, split⟩, fun _ => removed⟩
  · rw [kept]
    exact ⟨by simp, fun marked => absurd marked unmarked⟩

/-! ## Carriage returns -/

variable {s piece : Bytes}

theorem removeReturns_cons {b : UInt8} (apart : ¬ (b = carriageReturn ∧ s.head? = some newline)) :
    removeReturns (b :: s) = (b :: (removeReturns s).1, (removeReturns s).2) := by
  rw [removeReturns.eq_def]
  split
  next pair =>
    obtain ⟨rfl, rfl⟩ := List.cons.inj pair
    exact absurd ⟨rfl, rfl⟩ apart
  next same =>
    obtain ⟨rfl, rfl⟩ := List.cons.inj same
    rfl
  next none => simp at none

/-- What has no newline is kept, unless it ends with a carriage return before a newline. -/
theorem removeReturns_append {t : Bytes} (oneLine : newline ∉ s)
    (seam : t.head? = some newline → ¬ [carriageReturn] <:+ s) :
    removeReturns (s ++ t) = (s ++ (removeReturns t).1, (removeReturns t).2) := by
  induction s with
  | nil => rfl
  | cons b s ih =>
    have oneLine' : newline ∉ s := fun member => oneLine (List.mem_cons_of_mem b member)
    have seam' : t.head? = some newline → ¬ [carriageReturn] <:+ s := fun follows ends =>
      seam follows (ends.trans (List.suffix_cons b s))
    have apart : ¬ (b = carriageReturn ∧ (s ++ t).head? = some newline) := by
      rintro ⟨rfl, next⟩
      cases s with
      | nil => exact seam next (List.suffix_refl _)
      | cons c s =>
        obtain rfl : c = newline := Option.some.inj next
        exact oneLine' List.mem_cons_self
    rw [List.cons_append, removeReturns_cons apart, ih oneLine' seam']
    rfl

/-- **The last line is kept as it is.** -/
theorem removeReturns_of_oneLine (oneLine : newline ∉ s) : removeReturns s = (s, false) := by
  have kept : removeReturns (s ++ []) = (s ++ [], false) := removeReturns_append oneLine (by simp)
  rwa [List.append_nil] at kept

/-- **A line that a newline ends loses one carriage return before it.** -/
theorem removeReturns_cut (absent : newline ∉ piece) (rest : Bytes) :
    removeReturns (piece ++ newline :: rest)
      = (Bytes.dropSuffix [carriageReturn] piece ++ newline :: (removeReturns rest).1,
        Bytes.endsWith [carriageReturn] piece || (removeReturns rest).2) := by
  have newlineKept : removeReturns (newline :: rest)
      = (newline :: (removeReturns rest).1, (removeReturns rest).2) :=
    removeReturns_cons fun return_ => absurd return_.1 (by decide)
  by_cases ends : [carriageReturn] <:+ piece
  · have ended : Bytes.endsWith [carriageReturn] piece = true := List.isSuffixOf_iff_suffix.2 ends
    obtain ⟨line, rfl⟩ := ends
    have oneLine : newline ∉ line := fun member => absent (List.mem_append_left _ member)
    have pair : (line ++ [carriageReturn]) ++ newline :: rest
        = line ++ carriageReturn :: newline :: rest := by simp
    have seam : (carriageReturn :: newline :: rest).head? = some newline →
        ¬ [carriageReturn] <:+ line := fun next => absurd (Option.some.inj next) (by decide)
    rw [Bytes.dropSuffix_append, ended, Bool.true_or, pair, removeReturns_append oneLine seam]
    rfl
  · have unended : Bytes.endsWith [carriageReturn] piece = false := by
      rw [Bool.eq_false_iff]
      exact fun ended => ends (List.isSuffixOf_iff_suffix.1 ended)
    rw [Bytes.dropSuffix_of_not_suffix ends, unended, Bool.false_or,
      removeReturns_append absent fun _ => ends, newlineKept]

theorem newline_notMem_dropSuffix (absent : newline ∉ piece) (suffix : Bytes) :
    newline ∉ Bytes.dropSuffix suffix piece := fun member =>
  absent ((Bytes.dropSuffix_prefix suffix piece).subset member)

theorem count_newline_removeReturns (s : Bytes) :
    (removeReturns s).1.count newline = s.count newline := by
  induction s using Bytes.lines_induction with
  | oneLine s oneLine => rw [removeReturns_of_oneLine oneLine]
  | line piece rest absent ih =>
    rw [removeReturns_cut absent, Bytes.count_newline_cut absent,
      Bytes.count_newline_cut (newline_notMem_dropSuffix absent _), ih]

/-- The lines of what is kept are those of the text, all but the last one without a carriage return at
their end. -/
theorem lines_removeReturns (s : Bytes) (i : Nat) :
    (removeReturns s).1.lines[i]? = s.lines[i]?.map fun line =>
      if i < s.count newline then Bytes.dropSuffix [carriageReturn] line else line := by
  induction s using Bytes.lines_induction generalizing i with
  | oneLine s oneLine =>
    have last : ¬ i < s.count newline := by
      rw [List.count_eq_zero_of_not_mem oneLine]
      exact Nat.not_lt_zero i
    rw [removeReturns_of_oneLine oneLine]
    simp only [last, if_false, Option.map_id_fun', id_eq]
  | line piece rest absent ih =>
    rw [removeReturns_cut absent, Bytes.lines_cut (newline_notMem_dropSuffix absent _),
      Bytes.lines_cut absent, Bytes.count_newline_cut absent]
    cases i with
    | zero => simp
    | succ i =>
      simp only [List.getElem?_cons_succ, Nat.add_lt_add_iff_right]
      exact ih i

/-- A carriage return is removed exactly if one stands directly before a newline. -/
theorem removeReturns_snd_iff (s : Bytes) :
    (removeReturns s).2 = true ↔ [carriageReturn, newline] <:+: s := by
  have absent' : newline ∉ [carriageReturn] := by decide
  induction s using Bytes.lines_induction with
  | oneLine s oneLine =>
    rw [removeReturns_of_oneLine oneLine]
    exact ⟨by simp, fun pair => absurd (pair.mem (by simp)) oneLine⟩
  | line piece rest absent ih =>
    rw [removeReturns_cut absent, Bool.or_eq_true]
    exact (or_congr List.isSuffixOf_iff_suffix ih).trans
      (Bytes.infix_concat_cut absent' absent rest).symm

/-- A text in which no carriage return stands directly before a newline is kept as it is. -/
theorem removeReturns_of_unpaired (unpaired : ¬ [carriageReturn, newline] <:+: s) :
    removeReturns s = (s, false) := by
  induction s with
  | nil => rfl
  | cons b s ih =>
    have apart : ¬ (b = carriageReturn ∧ s.head? = some newline) := by
      rintro ⟨rfl, next⟩
      obtain ⟨rest, rfl⟩ := List.head?_eq_some_iff.1 next
      exact unpaired (List.prefix_append [carriageReturn, newline] rest).isInfix
    have unpaired' : ¬ [carriageReturn, newline] <:+: s := fun inside =>
      unpaired (inside.trans (List.suffix_cons b s).isInfix)
    rw [removeReturns_cons apart, ih unpaired']

/-- Every offset of what is kept stands for a place of the text: what is kept of the text before the
place stands before the offset, and what is kept of the text behind the place stands behind it. -/
theorem exists_place_removeReturns (s : Bytes) {offset : Nat}
    (inside : offset ≤ (removeReturns s).1.length) :
    ∃ place ≤ s.length,
      (removeReturns (s.take place)).1 = (removeReturns s).1.take offset ∧
      (removeReturns (s.drop place)).1 = (removeReturns s).1.drop offset := by
  fun_induction removeReturns s generalizing offset with
  | case1 rest ih =>
    cases offset with
    | zero => exact ⟨0, Nat.zero_le _, rfl, rfl⟩
    | succ offset =>
      obtain ⟨place, bound, before, behind⟩ := ih (Nat.le_of_succ_le_succ inside)
      exact ⟨place + 2, Nat.add_le_add_right bound 2, congrArg (newline :: ·) before, behind⟩
  | case2 b rest single ih =>
    cases offset with
    | zero =>
      refine ⟨0, Nat.zero_le _, rfl, ?_⟩
      rw [List.drop_zero, List.drop_zero, removeReturns.eq_2 b rest single]
    | succ offset =>
      obtain ⟨place, bound, before, behind⟩ := ih (Nat.le_of_succ_le_succ inside)
      refine ⟨place + 1, Nat.succ_le_succ bound, ?_, behind⟩
      have apart : ¬ (b = carriageReturn ∧ (rest.take place).head? = some newline) := by
        rintro ⟨rfl, next⟩
        cases rest with
        | nil => simp at next
        | cons c rest =>
          cases place with
          | zero => simp at next
          | succ place =>
            obtain rfl : c = newline := Option.some.inj next
            exact single rest rfl rfl
      rw [List.take_succ_cons, removeReturns_cons apart, List.take_succ_cons, before]
  | case3 =>
    obtain rfl : offset = 0 := Nat.le_zero.1 inside
    exact ⟨0, Nat.le_refl 0, rfl, rfl⟩

/-! ## What loading takes away -/

/-- The mark that loading takes away at the beginning of a file. -/
def leadingMark (raw : Bytes) : Bytes := if byteOrderMark <+: raw then byteOrderMark else []

/-- What loading takes away at the beginning of a line: the mark, from the first line. -/
def lostBefore (raw : Bytes) (number : Nat) : Bytes := if number = 1 then leadingMark raw else []

/-- What loading takes away at the end of a line: one carriage return, if there is one and a newline
follows it. -/
def lostBehind (raw : Bytes) (number : Nat) : Bytes :=
  if number ≤ raw.count newline ∧ [carriageReturn] <:+ lineText (lineIndex raw) raw number then
    [carriageReturn]
  else []

variable {raw : Bytes}

theorem leadingMark_append_removeMark (raw : Bytes) : leadingMark raw ++ (removeMark raw).1 = raw := by
  rw [leadingMark]
  rcases removeMark_cases raw with ⟨split, -⟩ | ⟨unmarked, kept⟩
  · rw [if_pos ⟨_, split⟩, split]
  · rw [if_neg unmarked, kept, List.nil_append]

theorem notMem_leadingMark {b : UInt8} (apart : b ∉ byteOrderMark) (raw : Bytes) :
    b ∉ leadingMark raw := by
  rw [leadingMark]
  split
  · exact apart
  · exact List.not_mem_nil

theorem newline_notMem_leadingMark (raw : Bytes) : newline ∉ leadingMark raw :=
  notMem_leadingMark (by decide) raw

theorem count_newline_removeMark (raw : Bytes) :
    (removeMark raw).1.count newline = raw.count newline := by
  have whole := congrArg (List.count newline) (leadingMark_append_removeMark raw)
  rwa [List.count_append, List.count_eq_zero_of_not_mem (newline_notMem_leadingMark raw),
    Nat.zero_add] at whole

/-- A file has as many newlines as what is kept of it. -/
theorem count_newline_loadContent (raw : Bytes) :
    (loadContent raw).1.count newline = raw.count newline :=
  (count_newline_removeReturns _).trans (count_newline_removeMark raw)

/-- A line without a carriage return, and what was taken away from it. -/
theorem dropSuffix_append_return (line : Bytes) :
    Bytes.dropSuffix [carriageReturn] line
      ++ (if [carriageReturn] <:+ line then [carriageReturn] else []) = line := by
  by_cases ends : [carriageReturn] <:+ line
  · rw [if_pos ends]
    obtain ⟨t, rfl⟩ := ends
    rw [Bytes.dropSuffix_append]
  · rw [if_neg ends, Bytes.dropSuffix_of_not_suffix ends, List.append_nil]

/-- The lines of a file are those that stay when its mark is taken away, with the mark before the
first. -/
theorem lines_removeMark (raw : Bytes) (i : Nat) :
    raw.lines[i]? = (removeMark raw).1.lines[i]?.map fun line => lostBefore raw (i + 1) ++ line := by
  have split := Bytes.lines_append (newline_notMem_leadingMark raw) (removeMark raw).1 i
  rw [leadingMark_append_removeMark] at split
  rw [split]
  cases i with
  | zero => rfl
  | succ i => simp [lostBefore]

theorem lostBehind_zero (raw : Bytes) : lostBehind raw 0 = [] := by
  have none : ¬ [carriageReturn] <:+ lineText (lineIndex raw) raw 0 := by simp [lineText]
  rw [lostBehind, if_neg fun both => none both.2]

theorem lostBehind_eq {i : Nat} {line : Bytes} (here : (removeMark raw).1.lines[i]? = some line) :
    lostBehind raw (i + 1)
      = if i < raw.count newline ∧ [carriageReturn] <:+ line then [carriageReturn] else [] := by
  have text : lineText (lineIndex raw) raw (i + 1) = lostBefore raw (i + 1) ++ line := by
    rw [lineText_eq_getD, List.getD_eq_getElem?_getD, lines_removeMark, here, Option.map_some,
      Option.getD_some]
  have absent : carriageReturn ∉ lostBefore raw (i + 1) := by
    rw [lostBefore]
    split
    · exact notMem_leadingMark (by decide) raw
    · exact List.not_mem_nil
  have ends : [carriageReturn] <:+ lineText (lineIndex raw) raw (i + 1) ↔
      [carriageReturn] <:+ line := by
    rw [text]
    exact Bytes.suffix_append_iff (by simpa using absent) line
  simp only [lostBehind, ends, Nat.succ_le_iff]

/-- **The lines of a file are the lines that are kept of it**, with what was taken away on both
sides. -/
theorem lines_loadContent (raw : Bytes) (i : Nat) :
    raw.lines[i]? = (loadContent raw).1.lines[i]?.map fun line =>
      lostBefore raw (i + 1) ++ line ++ lostBehind raw (i + 1) := by
  rw [lines_removeMark, loadContent, lines_removeReturns, count_newline_removeMark, Option.map_map]
  cases here : (removeMark raw).1.lines[i]? with
  | none => rfl
  | some line =>
    rw [Option.map_some, Option.map_some, Function.comp_apply, lostBehind_eq here, List.append_assoc]
    by_cases bound : i < raw.count newline
    · simp only [bound, if_true, true_and, dropSuffix_append_return]
    · simp only [bound, if_false, false_and, List.append_nil]

theorem lineText_loadContent (raw : Bytes) (number : Nat) :
    lineText (lineIndex raw) raw number
      = lostBefore raw number
        ++ lineText (lineIndex (loadContent raw).1) (loadContent raw).1 number
        ++ lostBehind raw number := by
  cases number with
  | zero =>
    rw [lostBehind_zero]
    rfl
  | succ i =>
    rw [lineText_eq_getD, lineText_eq_getD, List.getD_eq_getElem?_getD, List.getD_eq_getElem?_getD,
      lines_loadContent]
    cases here : (loadContent raw).1.lines[i]? with
    | some line => rfl
    | none =>
      -- there is no such line, so nothing was taken away from it
      rw [List.getElem?_eq_none_iff, Bytes.lines, Bytes.length_splitAtByte,
        count_newline_loadContent] at here
      have notFirst : i + 1 ≠ 1 := by omega
      have beyond : ¬ (i + 1 ≤ raw.count newline ∧
          [carriageReturn] <:+ lineText (lineIndex raw) raw (i + 1)) := by omega
      rw [lostBefore, if_neg notFirst, lostBehind, if_neg beyond]
      rfl

/-! ## Flags -/

/-- Is a flag set? -/
def FileFlags.Has (flags flag : FileFlags) : Prop := flags.bits &&& flag.bits ≠ 0

theorem FileFlags.ofLoad_has (mark returns : Bool) :
    ((ofLoad mark returns).Has hadMark ↔ mark = true) ∧
    ((ofLoad mark returns).Has hadReturns ↔ returns = true) := by
  simp only [Has]
  revert mark returns
  decide

theorem exists_lostBefore_iff (raw : Bytes) :
    (∃ number, lostBefore raw number ≠ []) ↔ (removeMark raw).2 = true := by
  rw [removeMark_snd_iff]
  constructor
  · rintro ⟨number, lost⟩
    by_contra unmarked
    rw [lostBefore, leadingMark, if_neg unmarked, ite_self] at lost
    exact lost rfl
  · intro marked
    refine ⟨1, ?_⟩
    rw [lostBefore, if_pos rfl, leadingMark, if_pos marked]
    exact List.cons_ne_nil _ _

theorem exists_lostBehind_iff (raw : Bytes) :
    (∃ number, lostBehind raw number ≠ []) ↔ (removeReturns (removeMark raw).1).2 = true := by
  have apart : newline ∉ [carriageReturn] := by decide
  rw [removeReturns_snd_iff, show [carriageReturn, newline] = [carriageReturn] ++ [newline] from rfl,
    Bytes.infix_newline_iff apart, count_newline_removeMark]
  constructor
  · rintro ⟨number, lost⟩
    cases number with
    | zero => exact absurd (lostBehind_zero raw) lost
    | succ i =>
      have bound : i < raw.count newline := by
        by_contra beyond
        rw [lostBehind, if_neg fun both => beyond both.1] at lost
        exact lost rfl
      have inside : i < (removeMark raw).1.lines.length := by
        rw [Bytes.lines, Bytes.length_splitAtByte, count_newline_removeMark]
        omega
      have here := List.getElem?_eq_getElem inside
      refine ⟨i, _, bound, here, ?_⟩
      by_contra ends
      rw [lostBehind_eq here, if_neg fun both => ends both.2] at lost
      exact lost rfl
  · rintro ⟨i, line, bound, here, ends⟩
    refine ⟨i + 1, ?_⟩
    rw [lostBehind_eq here, if_pos ⟨bound, ends⟩]
    exact List.cons_ne_nil _ _

/-! ## Places -/

theorem loadContent_append (s : Bytes) :
    (loadContent (byteOrderMark ++ s)).1 = (removeReturns s).1 := rfl

theorem loadContent_of_unmarked {s : Bytes} (unmarked : ¬ byteOrderMark <+: s) :
    (loadContent s).1 = (removeReturns s).1 := by
  rw [loadContent, removeMark_of_unmarked unmarked]

/-- **Every offset of what is kept stands for a place of the file, on the same line**: what is kept of
the file before the place stands before the offset, and what is kept of the file behind the place stands
behind it. -/
theorem exists_place_loadContent (raw : Bytes) {offset : Nat}
    (inside : offset ≤ (loadContent raw).1.length) :
    ∃ place ≤ raw.length,
      (loadContent (raw.take place)).1 = (loadContent raw).1.take offset ∧
      (removeReturns (raw.drop place)).1 = (loadContent raw).1.drop offset ∧
      (lineColumn (lineIndex raw) place).1
        = (lineColumn (lineIndex (loadContent raw).1) offset).1 := by
  have sameLine {place : Nat}
      (before : (loadContent (raw.take place)).1 = (loadContent raw).1.take offset) :
      (lineColumn (lineIndex raw) place).1
        = (lineColumn (lineIndex (loadContent raw).1) offset).1 := by
    rw [line_eq_count, line_eq_count, ← before, count_newline_loadContent]
  by_cases marked : byteOrderMark <+: raw
  · obtain ⟨rest, rfl⟩ := marked
    obtain ⟨place, bound, before, behind⟩ := exists_place_removeReturns rest inside
    have before' : (loadContent ((byteOrderMark ++ rest).take (byteOrderMark.length + place))).1
        = (loadContent (byteOrderMark ++ rest)).1.take offset := by
      rw [List.take_length_add_append, loadContent_append, loadContent_append, before]
    refine ⟨byteOrderMark.length + place, ?_, before', ?_, sameLine before'⟩
    · rw [List.length_append]
      omega
    · rw [List.drop_length_add_append, loadContent_append, behind]
  · have unmarked (place : Nat) : ¬ byteOrderMark <+: raw.take place := fun starts =>
      marked (starts.trans (List.take_prefix place raw))
    rw [loadContent_of_unmarked marked] at inside
    obtain ⟨place, bound, before, behind⟩ := exists_place_removeReturns raw inside
    have before' : (loadContent (raw.take place)).1 = (loadContent raw).1.take offset := by
      rw [loadContent_of_unmarked (unmarked place), loadContent_of_unmarked marked, before]
    refine ⟨place, bound, before', ?_, sameLine before'⟩
    rw [loadContent_of_unmarked marked, behind]

/-! ## Loading a file -/

/-- What a file of a set has in common with the file on disk that it was loaded from. -/
structure LoadedFrom (raw : Bytes) (f : SourceFile) : Prop where
  newlines : f.content.count newline = raw.count newline
  /-- a line on disk is the line that is kept, with what was taken away on both sides -/
  lines : ∀ number, lineText (lineIndex raw) raw number
    = lostBefore raw number ++ lineText f.index f.content number ++ lostBehind raw number
  mark : f.flags.Has .hadMark ↔ ∃ number, lostBefore raw number ≠ []
  returns : f.flags.Has .hadReturns ↔ ∃ number, lostBehind raw number ≠ []
  /-- an offset has the number of the line on which the place that it stands for is on disk -/
  places : ∀ offset ≤ f.content.length, ∃ place ≤ raw.length,
    (loadContent (raw.take place)).1 = f.content.take offset ∧
    (removeReturns (raw.drop place)).1 = f.content.drop offset ∧
    (lineColumn (lineIndex raw) place).1 = (lineColumn f.index offset).1

namespace FileSet

variable {disk : Disk} {path : Bytes}

theorem load_of_read (read : disk.read path = .ok raw) (s : FileSet) :
    s.load disk path = .ok (s.add path (loadContent raw).1 (loadContent raw).2) := by
  rw [load, read]

/-- There has to be room for what is kept of the file. -/
theorem load?_eq_some_iff (read : disk.read path = .ok raw) (s : FileSet) :
    s.load? disk path = .ok (some (s.add path (loadContent raw).1 (loadContent raw).2)) ↔
      s.HasRoom (loadContent raw).1 := by
  rw [load?, read, Except.ok.injEq, add?_eq_some_iff]

theorem get?_add (s : FileSet) (path content : Bytes) (flags : FileFlags) :
    (s.add path content flags).2.get? (s.add path content flags).1
      = some { id := s.size, path := Path.clean path, content, flags } :=
  List.getElem?_concat_length

/-- A file that can be read is loaded, and what is kept of it is stored. -/
theorem exists_loaded (read : disk.read path = .ok raw) (s : FileSet) :
    ∃ id s', s.load disk path = .ok (id, s') ∧ s'.get? id = some
      { id := s.size, path := Path.clean path, content := (loadContent raw).1,
        flags := (loadContent raw).2 } :=
  ⟨_, _, load_of_read read s, get?_add s path _ _⟩

/-- A load that succeeds has stored what is kept of the file. -/
theorem get?_of_load {s s' : FileSet} {id : Nat} (read : disk.read path = .ok raw)
    (loaded : s.load disk path = .ok (id, s')) :
    s'.get? id = some
      { id := s.size, path := Path.clean path, content := (loadContent raw).1,
        flags := (loadContent raw).2 } := by
  obtain ⟨id', s'', loaded', stored⟩ := exists_loaded read s
  obtain ⟨rfl, rfl⟩ := Prod.mk.inj (Except.ok.inj (loaded'.symm.trans loaded))
  exact stored

/-- **A file that can be read is loaded, and its lines keep their numbers and their texts**, but for a
byte order mark and for single carriage returns before newlines; flags tell whether there were any.  The
program stops instead exactly if there is no room for what is kept. -/
theorem load_faithful (read : disk.read path = .ok raw) (s : FileSet) :
    ∃ id s' f, s.load disk path = .ok (id, s') ∧ s'.get? id = some f ∧ LoadedFrom raw f ∧
      (s.load? disk path = .ok (some (id, s')) ↔ s.HasRoom f.content) := by
  obtain ⟨mark, returns⟩ :=
    FileFlags.ofLoad_has (removeMark raw).2 (removeReturns (removeMark raw).1).2
  refine ⟨_, _, _, load_of_read read s, get?_add s path _ _, ?_, load?_eq_some_iff read s⟩
  exact {
    newlines := count_newline_loadContent raw
    lines := lineText_loadContent raw
    mark := mark.trans (exists_lostBefore_iff raw).symm
    returns := returns.trans (exists_lostBehind_iff raw).symm
    places := fun _ inside => exists_place_loadContent raw inside }

/-- A mark, a line with two carriage returns at its end, one with a carriage return inside, an empty line
with a carriage return, and a last line with a carriage return that stays. -/
def mixedEnds : Bytes := byteOrderMark ++ utf8 "a\r\r\nb\rc\n\r\nd\r"

theorem load_faithful_mixedEnds :
    (Disk.single mixedEnds).read (utf8 "a.js") = .ok mixedEnds ∧
    ∃ id s f, ({} : FileSet).load (Disk.single mixedEnds) (utf8 "a.js") = .ok (id, s) ∧
      s.get? id = some f ∧ LoadedFrom mixedEnds f ∧
      ({} : FileSet).load? (Disk.single mixedEnds) (utf8 "a.js") = .ok (some (id, s)) ∧
      f.content = utf8 "a\r\nb\rc\n\nd\r" ∧ f.flags = ⟨6⟩ := by
  have read := Disk.read_single mixedEnds
  obtain ⟨id, s, f, loaded, kept, faithful, room⟩ := load_faithful read {}
  have stored := kept
  rw [get?_of_load read loaded] at stored
  obtain rfl := Option.some.inj stored
  exact ⟨read, id, s, _, loaded, kept, faithful, room.2 (by decide), by decide⟩

end FileSet

end Marginalia
