import Marginalia.Proofs.Source.Loading

/-!
# Writing what is kept and loading it again

Loading takes away one byte order mark and, before each newline, one carriage return.
It does so once.  What is kept of a file with two marks begins with a mark again, and
what is kept of two carriage returns before a newline is a carriage return before a
newline (`infix_loadContent_iff`, `prefix_loadContent_iff`).

A text is normal if it has neither.  These are the texts that loading keeps whole and
without a flag (`loadContent_of_normal`), so what is kept of a file can be written and
loaded again without a change exactly if it is normal (`FileSet.load_normal_iff`).
-/

namespace Marginalia

set_option autoImplicit false

open Bytes (newline carriageReturn)

/-- A text without carriage returns directly before newlines, and without a byte order mark. -/
structure IsNormal (content : Bytes) : Prop where
  unpaired : ¬ [carriageReturn, newline] <:+: content
  unmarked : ¬ byteOrderMark <+: content

/-! ## What is kept of several returns and marks -/

/-- **A carriage return before a newline is left over where there were two.** -/
theorem infix_removeReturns_iff (s : Bytes) :
    [carriageReturn, newline] <:+: (removeReturns s).1 ↔
      [carriageReturn, carriageReturn, newline] <:+: s := by
  have once : newline ∉ [carriageReturn] := by decide
  have twice : newline ∉ [carriageReturn, carriageReturn] := by decide
  refine (Bytes.infix_newline_iff once (removeReturns s).1).trans
    (Iff.trans ?_ (Bytes.infix_newline_iff twice s).symm)
  rw [count_newline_removeReturns]
  constructor
  · rintro ⟨i, kept, bound, here, ends⟩
    rw [lines_removeReturns, Option.map_eq_some_iff] at here
    obtain ⟨line, here, rfl⟩ := here
    rw [if_pos bound, Bytes.suffix_dropSuffix_iff] at ends
    exact ⟨i, line, bound, here, ends⟩
  · rintro ⟨i, line, bound, here, ends⟩
    refine ⟨i, Bytes.dropSuffix [carriageReturn] line, bound, ?_,
      (Bytes.suffix_dropSuffix_iff carriageReturn line).2 ends⟩
    rw [lines_removeReturns, here, Option.map_some, if_pos bound]

theorem infix_loadContent_iff (raw : Bytes) :
    [carriageReturn, newline] <:+: (loadContent raw).1 ↔
      [carriageReturn, carriageReturn, newline] <:+: raw := by
  have noReturn : carriageReturn ∉ leadingMark raw := notMem_leadingMark (by decide) raw
  have noNewline : newline ∉ leadingMark raw := notMem_leadingMark (by decide) raw
  have apart : ∀ b ∈ [carriageReturn, carriageReturn, newline], b ∉ leadingMark raw := by
    simp [noReturn, noNewline]
  have behind := Bytes.infix_append_iff apart (removeMark raw).1
  rw [leadingMark_append_removeMark] at behind
  exact (infix_removeReturns_iff (removeMark raw).1).trans behind.symm

/-- A beginning without carriage returns and newlines stays a beginning, and no other comes up. -/
theorem prefix_removeReturns_iff {word : Bytes} (noReturn : carriageReturn ∉ word)
    (noNewline : newline ∉ word) (s : Bytes) : word <+: (removeReturns s).1 ↔ word <+: s := by
  induction s using Bytes.lines_induction with
  | oneLine s oneLine => rw [removeReturns_of_oneLine oneLine]
  | line piece rest absent _ =>
    have onFirstLine (piece rest : Bytes) :
        word <+: piece ++ newline :: rest ↔ word <+: piece :=
      ⟨Bytes.prefix_of_prefix_append_cons noNewline, fun starts =>
        starts.trans (List.prefix_append piece _)⟩
    rw [removeReturns_cut absent, onFirstLine, onFirstLine]
    by_cases ends : [carriageReturn] <:+ piece
    · obtain ⟨line, rfl⟩ := ends
      rw [Bytes.dropSuffix_append]
      exact ⟨fun starts => starts.trans (List.prefix_append line _),
        Bytes.prefix_of_prefix_append_cons noReturn⟩
    · rw [Bytes.dropSuffix_of_not_suffix ends]

/-- **A byte order mark is left over where there were two.** -/
theorem prefix_loadContent_iff (raw : Bytes) :
    byteOrderMark <+: (loadContent raw).1 ↔ byteOrderMark ++ byteOrderMark <+: raw := by
  refine (prefix_removeReturns_iff (by decide) (by decide) (removeMark raw).1).trans ?_
  rcases removeMark_cases raw with ⟨split, -⟩ | ⟨unmarked, kept⟩
  · conv_rhs => rw [← split]
    exact (List.prefix_append_right_inj byteOrderMark).symm
  · rw [kept]
    exact ⟨fun marked => absurd marked unmarked, fun twice =>
      absurd ((List.prefix_append _ _).trans twice) unmarked⟩

/-! ## Normal texts -/

/-- **A normal text is kept whole.** -/
theorem loadContent_of_normal {content : Bytes} (normal : IsNormal content) :
    loadContent content = (content, .ofLoad false false) := by
  rw [loadContent, removeMark_of_unmarked normal.unmarked]
  simp only [removeReturns_of_unpaired normal.unpaired]

/-- What is stored is what is on disk, and no flag says that something was taken away. -/
structure SourceFile.IsWhole (f : SourceFile) (raw : Bytes) : Prop where
  content : f.content = raw
  unmarked : ¬ f.flags.Has .hadMark
  unpaired : ¬ f.flags.Has .hadReturns

namespace FileSet

variable {disk : Disk} {path raw : Bytes}

/-- **A file is loaded whole exactly if it is normal.** -/
theorem load_whole_iff (read : disk.read path = .ok raw) (s : FileSet) :
    ∃ id s' f, s.load disk path = .ok (id, s') ∧ s'.get? id = some f ∧
      (f.IsWhole raw ↔ IsNormal raw) ∧
      (s.load? disk path = .ok (some (id, s')) ↔ s.HasRoom f.content) := by
  refine ⟨_, _, _, load_of_read read s, get?_add s path _ _, ?_, load?_eq_some_iff read s⟩
  obtain ⟨mark, returns⟩ :=
    FileFlags.ofLoad_has (removeMark raw).2 (removeReturns (removeMark raw).1).2
  constructor
  · intro whole
    have unmarked : ¬ byteOrderMark <+: raw := fun starts =>
      whole.unmarked (mark.2 ((removeMark_snd_iff raw).2 starts))
    refine ⟨fun inside => whole.unpaired (returns.2 ?_), unmarked⟩
    rw [removeMark_of_unmarked unmarked]
    exact (removeReturns_snd_iff raw).2 inside
  · intro normal
    have kept := loadContent_of_normal normal
    obtain ⟨noMark, noReturns⟩ := FileFlags.ofLoad_has false false
    exact {
      content := congrArg Prod.fst kept
      unmarked := by simp [kept, noMark]
      unpaired := by simp [kept, noReturns] }

/-- **What is kept of a file has a carriage return before a newline, or a byte order mark, only where
the file had two of them**, and exactly if it has neither it is loaded whole after it is written.  The
program stops instead exactly if there is no room for what is kept. -/
theorem load_normal_iff (read : disk.read path = .ok raw) (s : FileSet) :
    ∃ id s' f, s.load disk path = .ok (id, s') ∧ s'.get? id = some f ∧
      ([carriageReturn, newline] <:+: f.content ↔
        [carriageReturn, carriageReturn, newline] <:+: raw) ∧
      (byteOrderMark <+: f.content ↔ byteOrderMark ++ byteOrderMark <+: raw) ∧
      (s.load? disk path = .ok (some (id, s')) ↔ s.HasRoom f.content) ∧
      ∀ {disk' written : Disk} {path' : Bytes}, disk'.write path' f.content = .ok written →
        ∀ t : FileSet, ∃ id t' g, t.load written path' = .ok (id, t') ∧ t'.get? id = some g ∧
          (g.IsWhole f.content ↔ IsNormal f.content) ∧
          (t.load? written path' = .ok (some (id, t')) ↔ t.HasRoom g.content) := by
  refine ⟨_, _, _, load_of_read read s, get?_add s path _ _, infix_loadContent_iff raw,
    prefix_loadContent_iff raw, load?_eq_some_iff read s, ?_⟩
  intro disk' written path' wrote t
  exact load_whole_iff (Disk.read_of_write wrote) t

/-- A mark, a carriage return before a newline, and two more at the end. -/
def looseReturns : Bytes := utf8 "\uFEFFa\r\nb\r\r"

/-- What is kept of them. -/
def looseReturnsKept : Bytes := utf8 "a\nb\r\r"

theorem isNormal_looseReturnsKept : IsNormal looseReturnsKept where
  unpaired := by decide
  unmarked := by decide

theorem load_normal_iff_looseReturns :
    (Disk.single looseReturns).read (utf8 "a.js") = .ok looseReturns ∧
    (Disk.single looseReturns).write (utf8 "a.js") looseReturnsKept
      = .ok (Disk.single looseReturnsKept) ∧
    ∃ id s f, ({} : FileSet).load (Disk.single looseReturns) (utf8 "a.js") = .ok (id, s) ∧
      s.get? id = some f ∧ f.content = looseReturnsKept ∧
      ∃ id t g, s.load (Disk.single looseReturnsKept) (utf8 "a.js") = .ok (id, t) ∧
        t.get? id = some g ∧ g.IsWhole looseReturnsKept := by
  have read := Disk.read_single looseReturns
  have wrote := Disk.write_single looseReturns looseReturnsKept
  obtain ⟨id, s, f, loaded, stored, -, -, -, reload⟩ := load_normal_iff read {}
  have content : f.content = looseReturnsKept := by
    rw [get?_of_load read loaded] at stored
    rw [← Option.some.inj stored]
    decide
  rw [content] at reload
  obtain ⟨id', t, g, loaded', stored', whole, -⟩ := reload wrote s
  exact ⟨read, wrote, id, s, f, loaded, stored, content, id', t, g, loaded', stored',
    whole.2 isNormal_looseReturnsKept⟩

/-- Two marks, and two carriage returns before a newline. -/
def doubled : Bytes := utf8 "\uFEFF\uFEFFx\r\r\n"

/-- What is kept of two marks and of two carriage returns is no normal text, and loading it again takes
away the others as well. -/
theorem load_doubled :
    ∃ id s f, ({} : FileSet).load (Disk.single doubled) (utf8 "a.js") = .ok (id, s) ∧
      s.get? id = some f ∧ [carriageReturn, newline] <:+: f.content ∧ byteOrderMark <+: f.content ∧
      ∃ written id t g, (Disk.single doubled).write (utf8 "a.js") f.content = .ok written ∧
        s.load written (utf8 "a.js") = .ok (id, t) ∧ t.get? id = some g ∧
        g.content ≠ f.content ∧ g.flags.Has .hadMark ∧ g.flags.Has .hadReturns := by
  have kept : loadContent doubled = (utf8 "\uFEFFx\r\n", .ofLoad true true) := by decide
  have keptThen : loadContent (utf8 "\uFEFFx\r\n") = (utf8 "x\n", .ofLoad true true) := by decide
  obtain ⟨id, s, loaded, stored⟩ := exists_loaded (Disk.read_single doubled) {}
  rw [kept] at stored
  obtain ⟨id', t, loaded', stored'⟩ := exists_loaded (Disk.read_single (utf8 "\uFEFFx\r\n")) s
  rw [keptThen] at stored'
  have changed : utf8 "x\n" ≠ utf8 "\uFEFFx\r\n" := by decide
  obtain ⟨mark, returns⟩ := FileFlags.ofLoad_has true true
  exact ⟨id, s, _, loaded, stored, by decide, by decide, _, id', t, _, Disk.write_single doubled _,
    loaded', stored', changed, mark.2 rfl, returns.2 rfl⟩

end FileSet

end Marginalia
