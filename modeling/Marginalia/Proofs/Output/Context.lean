import Marginalia.Output.Pretty
import Marginalia.Proofs.Output.Painted
import Marginalia.Proofs.Path.Clean
import Marginalia.Proofs.Source.Lines
import Mathlib.Data.List.Forall2

/-!
# The lines shown for a diagnostic

The line of a diagnostic is shown with lines above it, each with its number, and with a
mark below.  The numbers are counted up to that of the diagnostic in 32 bits.  Counting
ends if there is a number behind the last one, and it goes through every number in between
(`Pretty.upTo_of_lt`).  Behind the greatest number comes zero, so if that is the last
one, counting goes round and never ends (`Pretty.upTo_greatest`).

In every other case the right lines are shown, as many as there are or as were asked for,
each with its number and its text (`ShowsLine`), and one mark (`Pretty.context?_shows`).
No line of a file has a newline in it, and the mark has none either, so what is shown are
really that many lines.
-/

namespace Marginalia

set_option autoImplicit false

/-- A line of a file has no newline in it. -/
theorem SourceFile.newline_notMem_line (f : SourceFile) (number : UInt32) :
    Bytes.newline ∉ f.line number := by
  rw [SourceFile.line, index]
  cases number.toNat with
  | zero => exact List.not_mem_nil
  | succ n =>
    rw [lineText_eq_getD, List.getD_eq_getElem?_getD]
    cases found : f.content.lines[n]? with
    | none => exact List.not_mem_nil
    | some piece => exact Bytes.notMem_of_mem_splitAtByte (List.mem_of_getElem? found)

theorem SourceFile.line_eq_getD (f : SourceFile) {number : UInt32} (positive : 0 < number.toNat) :
    f.line number = f.content.lines.getD (number.toNat - 1) [] := by
  rw [SourceFile.line, index, ← lineText_eq_getD, Nat.sub_add_cancel positive]

theorem Decimal.newline_notMem_nat (n : Nat) : Bytes.newline ∉ Decimal.nat n :=
  fun member => absurd (Decimal.digit_of_mem_nat member) (by decide)

theorem Style.newline_notMem_sequence (attributes : List Nat) :
    Bytes.newline ∉ Style.sequence attributes := by
  obtain ⟨numbers, written, digits⟩ := Style.isSequence_sequence attributes
  have absent : Bytes.newline ∉ numbers := fun member => absurd (digits _ member) (by decide)
  have opening : Bytes.newline ∉ ([27, 91] : Bytes) := by decide
  have closing : Bytes.newline ∉ utf8 "m" := by decide
  rw [written, List.mem_append, List.mem_append]
  exact fun member => member.elim (·.elim opening absent) closing

/-- A style breaks no line. -/
theorem Style.newline_notMem_paint {text : Bytes} (oneLine : Bytes.newline ∉ text) (on : Bool)
    (s : Style) : Bytes.newline ∉ s.paint on text := by
  rw [Style.paint]
  split
  · rw [List.mem_append, List.mem_append]
    exact fun member => member.elim
      (·.elim (newline_notMem_sequence _) oneLine) (newline_notMem_sequence _)
  · exact oneLine

namespace Pretty

variable {first last : UInt32} {c : LineCount}

/-! ## Counting lines -/

/-- **Counting ends behind a number that is not the greatest**, when it has gone through all numbers up
to it. -/
theorem upTo_of_lt (small : last.toNat + 1 < UInt32.size) {k : Nat}
    (ahead : c.next.toNat + k = last.toNat + 1) : c.upTo last = some (c.passed + k) := by
  induction k generalizing c with
  | zero =>
    have behind : ¬ c.next ≤ last := by
      rw [UInt32.le_iff_toNat_le]
      omega
    rw [LineCount.upTo, if_neg behind, Nat.add_zero]
  | succ k ih =>
    have reached : c.next ≤ last := by
      rw [UInt32.le_iff_toNat_le]
      omega
    have next : (c.next + 1).toNat = c.next.toNat + 1 := by
      rw [UInt32.size] at small
      rw [UInt32.toNat_add, UInt32.toNat_one]
      omega
    rw [LineCount.upTo, if_pos reached, ih (by rw [next]; omega), Nat.add_right_comm, Nat.add_assoc]

/-- **The greatest number is never passed.** -/
theorem upTo_greatest (c : LineCount) : c.upTo 0xFFFFFFFF = none := by
  -- what a recursive call does not return is not returned at all, for no number is behind the greatest
  have endless := LineCount.upTo.partial_correctness 0xFFFFFFFF (fun _ _ => False) (by
    intro count never c passed returned
    have reached : c.next ≤ 0xFFFFFFFF := UInt32.le_iff_toNat_le.2 (Nat.le_of_lt_succ c.next.toNat_lt)
    rw [if_pos reached] at returned
    exact never _ passed returned)
  cases returned : c.upTo 0xFFFFFFFF with
  | none => rfl
  | some passed => exact (endless c passed returned).elim

theorem lineNumbers?_of_lt (small : last.toNat + 1 < UInt32.size) (order : first.toNat ≤ last.toNat) :
    lineNumbers? first last
      = some ((List.range' first.toNat (last.toNat + 1 - first.toNat)).map Nat.toUInt32) := by
  have counted : LineCount.upTo last { next := first } = some (0 + (last.toNat + 1 - first.toNat)) :=
    upTo_of_lt small (Nat.add_sub_of_le (Nat.le_succ_of_le order))
  rw [lineNumbers?, counted, Option.map_some, Nat.zero_add, List.range'_eq_map_range, List.map_map]
  rfl

theorem lineNumbers?_greatest (first : UInt32) : lineNumbers? first 0xFFFFFFFF = none := by
  rw [lineNumbers?, upTo_greatest, Option.map_none]

/-- So many lines are shown above a line: as many as are asked for, if there are as many. -/
def linesAbove (context : Int) (line : Nat) : Nat := min context.toNat (line - 1)

/-- The first line that is shown stands as far above the last as lines are shown above it. -/
theorem toNat_firstShown {line : UInt32} (positive : 0 < line.toNat) (context : Int) :
    (firstShown line context).toNat = line.toNat - linesAbove context line.toNat := by
  rw [firstShown, linesAbove]
  split
  · have none : context.toNat = 0 := by omega
    rw [none, Nat.zero_min, Nat.sub_zero]
  · split
    · have known : (line.toNat - context.toNat).toUInt32.toNat = line.toNat - context.toNat :=
        UInt32.toNat_ofNat_of_lt' (Nat.lt_of_le_of_lt (Nat.sub_le _ _) line.toNat_lt)
      rw [known]
      omega
    · rw [UInt32.toNat_one]
      omega

/-! ## What is shown -/

/-- A mark: blanks, and under what follows them a caret and a wave. -/
def caretLine (color : Bool) (blanks : Bytes) (wave : Nat) : Bytes :=
  Style.blue.paint color (utf8 "     |") ++ utf8 " " ++ blanks
    ++ Style.magentaBold.paint color (utf8 "^" ++ List.replicate wave 126) ++ utf8 "\n"

/-- What is shown of a line of a file: its number in four places, and its text. -/
inductive ShowsLine (color : Bool) (file : SourceFile) (n : Nat) : Bytes → Prop
  | line {gutter : Bytes} :
      Style.Painted color (List.replicate (4 - (utf8 (toString n)).length) Bytes.space
        ++ utf8 (toString n) ++ utf8 " |") gutter →
      ShowsLine color file n
        (gutter ++ utf8 " " ++ file.content.lines.getD (n - 1) [] ++ utf8 "\n")

/-- What is shown as a mark: a caret behind blanks, and perhaps a wave. -/
inductive ShowsMark (color : Bool) : Bytes → Prop
  | mark {gutter blanks pointer : Bytes} {wave : Nat} :
      Style.Painted color (utf8 "     |") gutter → blanks ⊆ [Bytes.space, Bytes.tab] →
      Style.Painted color (utf8 "^" ++ (List.replicate wave (utf8 "~")).flatten) pointer →
      ShowsMark color (gutter ++ utf8 " " ++ blanks ++ pointer ++ utf8 "\n")

/-- A text shows lines of a file, and then a mark.  Nothing else in it ends a line. -/
structure Shows (color : Bool) (file : SourceFile) (numbers : List Nat) (text : Bytes) : Prop where
  written : ∃ blanks wave, text
    = numbers.flatMap (fun n => sourceLine color file n.toUInt32) ++ caretLine color blanks wave
  lines : text.count Bytes.newline = numbers.length + 1
  said : ∃ texts mark, List.Forall₂ (ShowsLine color file) numbers texts ∧ ShowsMark color mark ∧
    text = texts.flatten ++ mark

theorem padding_subset (text : Bytes) : padding text ⊆ [Bytes.space, Bytes.tab] := by
  intro b member
  rw [padding, List.mem_flatMap] at member
  obtain ⟨piece, -, member⟩ := member
  split at member
  · exact .tail _ member
  · exact List.eq_of_mem_replicate member ▸ .head _

theorem showsLine_sourceLine (color : Bool) (file : SourceFile) {n : Nat} (positive : 1 ≤ n)
    (small : n < UInt32.size) : ShowsLine color file n (sourceLine color file n.toUInt32) := by
  have known : n.toUInt32.toNat = n := UInt32.toNat_ofNat_of_lt' small
  have shown : ShowsLine color file n _ := .line (Style.painted_paint color Style.blue _)
  rw [← Decimal.nat_eq_utf8, ← known, ← file.line_eq_getD (by omega), known] at shown
  rwa [sourceLine, Decimal.padLeft, known]

theorem showsMark_caretLine (color : Bool) {blanks : Bytes}
    (blank : blanks ⊆ [Bytes.space, Bytes.tab]) (wave : Nat) :
    ShowsMark color (caretLine color blanks wave) := by
  have tilde : utf8 "~" = List.replicate 1 126 := rfl
  have waving : List.replicate wave 126 = (List.replicate wave (utf8 "~")).flatten := by
    rw [tilde, List.flatten_replicate_replicate, Nat.mul_one]
  rw [caretLine, waving]
  exact .mark (Style.painted_paint _ _ _) blank (Style.painted_paint _ _ _)

theorem count_newline_caretLine {blanks : Bytes} (oneLine : Bytes.newline ∉ blanks) (color : Bool)
    (wave : Nat) : (caretLine color blanks wave).count Bytes.newline = 1 := by
  have gutter : Bytes.newline ∉ Style.blue.paint color (utf8 "     |") :=
    Style.newline_notMem_paint (by decide) color Style.blue
  have mark : Bytes.newline ∉ utf8 "^" ++ List.replicate wave 126 := by
    rw [List.mem_append]
    rintro (caret | waving)
    · exact absurd caret (by decide)
    · exact absurd (List.eq_of_mem_replicate waving) (by decide)
  have styled := Style.newline_notMem_paint mark color Style.magentaBold
  simp only [caretLine, List.count_append, List.count_eq_zero_of_not_mem gutter,
    List.count_eq_zero_of_not_mem oneLine, List.count_eq_zero_of_not_mem styled]
  decide

theorem count_newline_sourceLine (color : Bool) (file : SourceFile) (n : UInt32) :
    (sourceLine color file n).count Bytes.newline = 1 := by
  have number : Bytes.newline ∉ Decimal.padLeft 4 (Decimal.nat n.toNat) ++ utf8 " |" := by
    rw [Decimal.padLeft, List.mem_append, List.mem_append]
    rintro ((filling | digit) | bar)
    · exact absurd (List.eq_of_mem_replicate filling) (by decide)
    · exact Decimal.newline_notMem_nat _ digit
    · exact absurd bar (by decide)
  have styled := Style.newline_notMem_paint number color Style.blue
  simp only [sourceLine, List.count_append, List.count_eq_zero_of_not_mem styled,
    List.count_eq_zero_of_not_mem (file.newline_notMem_line n)]
  decide

theorem count_newline_sourceLines (color : Bool) (file : SourceFile) (numbers : List Nat) :
    (numbers.flatMap fun n => sourceLine color file n.toUInt32).count Bytes.newline
      = numbers.length := by
  induction numbers with
  | nil => rfl
  | cons n numbers ih =>
    rw [List.flatMap_cons, List.count_append, count_newline_sourceLine, ih, List.length_cons,
      Nat.add_comm]

/-- What is printed under a line is a mark with at least one sign. -/
theorem exists_caretLine (color : Bool) (text : Bytes) (column : Int) (width : Nat) :
    ∃ blanks wave, blanks ⊆ [Bytes.space, Bytes.tab] ∧
      markLine color text column width = caretLine color blanks wave :=
  ⟨_, _, padding_subset _, rfl⟩

/-- The numbers of the lines shown: so many above the line as `linesAbove` says, and the line. -/
def shownNumbers (context : Int) (line : Nat) : List Nat :=
  List.range' (line - linesAbove context line) (linesAbove context line + 1)

theorem bounds_of_mem_shownNumbers {context : Int} {line n : Nat} (positive : 1 ≤ line)
    (member : n ∈ shownNumbers context line) : 1 ≤ n ∧ n ≤ line := by
  have above : linesAbove context line ≤ line - 1 := Nat.min_le_right _ _
  rw [shownNumbers, List.mem_range'_1] at member
  omega

theorem lineNumbers?_firstShown (context : Int) (line : UInt32) (positive : 0 < line.toNat)
    (small : line.toNat + 1 < UInt32.size) :
    lineNumbers? (firstShown line context) line
      = some ((shownNumbers context line.toNat).map Nat.toUInt32) := by
  have first := toNat_firstShown positive context
  have above : linesAbove context line.toNat ≤ line.toNat - 1 := Nat.min_le_right _ _
  rw [lineNumbers?_of_lt small (by omega), first, shownNumbers]
  congr 3
  omega

section

variable (o : PrettyOptions) (file : SourceFile) (column : Int) (width : Nat) {line : Int}

/-- A line whose number has 32 bits is shown if the numbers up to it can be counted. -/
theorem context?_eq (positive : 1 ≤ line) (small : line < UInt32.size) :
    context? o file line column width
      = (lineNumbers? (firstShown line.toNat.toUInt32 o.context) line.toNat.toUInt32).map
        fun numbers => numbers.flatMap (sourceLine o.color file)
          ++ markLine o.color (file.line line.toNat.toUInt32) column width := by
  rw [context?, if_neg (by omega)]

theorem context?_greatest : context? o file (UInt32.size - 1) column width = none := by
  rw [context?_eq o file column width (by decide) (by decide)]
  exact congrArg (Option.map _) (lineNumbers?_greatest _)

/-- Before the greatest number, the line is shown with the lines above it. -/
theorem context?_of_lt (positive : 1 ≤ line) (small : line + 1 < UInt32.size) :
    context? o file line column width
      = some
        ((shownNumbers o.context line.toNat).flatMap (fun n => sourceLine o.color file n.toUInt32)
          ++ markLine o.color (file.line line.toNat.toUInt32) column width) := by
  have known : line.toNat.toUInt32.toNat = line.toNat := by
    have inside : line.toNat < UInt32.size := by omega
    exact UInt32.toNat_ofNat_of_lt' inside
  have counted := lineNumbers?_firstShown o.context line.toNat.toUInt32 (by omega) (by omega)
  rw [known] at counted
  rw [context?_eq o file column width positive (by omega), counted, Option.map_some,
    List.flatMap_map]

theorem exists_context?_eq (positive : 1 ≤ line) (small : line + 1 < UInt32.size) :
    ∃ text, context? o file line column width = some text ∧
      Shows o.color file (shownNumbers o.context line.toNat) text := by
  obtain ⟨blanks, wave, blank, mark⟩ :=
    exists_caretLine o.color (file.line line.toNat.toUInt32) column width
  have oneLine : Bytes.newline ∉ blanks := fun member => absurd (blank member) (by decide)
  rw [context?_of_lt o file column width positive small, mark]
  refine ⟨_, rfl, ⟨blanks, wave, rfl⟩, ?_, ?_⟩
  · rw [List.count_append, count_newline_sourceLines, count_newline_caretLine oneLine]
  · refine ⟨(shownNumbers o.context line.toNat).map fun n => sourceLine o.color file n.toUInt32,
      _, ?_, showsMark_caretLine o.color blank wave, by rw [← List.flatMap_def]⟩
    rw [List.forall₂_map_right_iff, List.forall₂_same]
    intro n member
    obtain ⟨low, high⟩ := bounds_of_mem_shownNumbers (by omega) member
    exact showsLine_sourceLine o.color file low (by omega)

end

/-- **The lines of a diagnostic are shown, unless it is on the last line that has a number.**  For a
line with a number of 32 bits, printing does not end exactly if this is the greatest number.  In all
other cases so many lines are shown as are asked for, and the line itself, but none before the first;
they follow each other up to the line, and below them is one mark. -/
theorem context?_shows (o : PrettyOptions) (file : SourceFile) (line column : Int) (width : Nat)
    (positive : 1 ≤ line) (small : line < UInt32.size) (nonneg : 0 ≤ o.context) :
    (context? o file line column width = none ↔ line = UInt32.size - 1) ∧
    ∀ text, context? o file line column width = some text →
      ∃ numbers : List Nat, Shows o.color file numbers text ∧
        (numbers.length : Int) = min o.context (line - 1) + 1 ∧
        numbers.IsChain (fun m n => n = m + 1) ∧ numbers.getLast? = some line.toNat := by
  by_cases greatest : line = UInt32.size - 1
  · rw [greatest, context?_greatest]
    exact ⟨iff_of_true rfl rfl, fun text shown => by cases shown⟩
  · obtain ⟨text, shown, lines⟩ := exists_context?_eq o file column width positive (by omega)
    rw [shown]
    refine ⟨iff_of_false (Option.some_ne_none _) greatest, ?_⟩
    rintro _ ⟨⟩
    refine ⟨shownNumbers o.context line.toNat, lines, ?_, List.isChain_range' _ _ _, ?_⟩
    · rw [shownNumbers, List.length_range', linesAbove]
      omega
    · rw [shownNumbers, List.getLast?_range', if_neg (Nat.succ_ne_zero _), linesAbove]
      congr 1
      omega

/-- Before the third line there are only two, and behind the greatest number there is none. -/
theorem context?_shows_gapped :
    (1 : Int) ≤ 3 ∧ (3 : Int) < UInt32.size ∧
    (∃ text numbers, context? { context := 5 } SourceFile.gapped 3 1 2 = some text ∧
      Shows false SourceFile.gapped numbers text ∧ numbers.length = 3 ∧
      numbers.getLast? = some 3) ∧
    context? { context := 5 } SourceFile.gapped 4294967295 1 2 = none := by
  obtain ⟨ends, printed⟩ :=
    context?_shows { context := 5 } SourceFile.gapped 3 1 2 (by decide) (by decide) (by decide)
  have endless :=
    context?_shows { context := 5 } SourceFile.gapped 4294967295 1 2 (by decide) (by decide) (by decide)
  refine ⟨by decide, by decide, ?_, endless.1.2 (by decide)⟩
  cases shown : context? { context := 5 } SourceFile.gapped 3 1 2 with
  | none => exact absurd (ends.1 shown) (by decide)
  | some text =>
    obtain ⟨numbers, lines, length, -, last⟩ := printed text shown
    exact ⟨text, numbers, rfl, lines, Int.ofNat.inj length, last⟩

end Pretty

end Marginalia
