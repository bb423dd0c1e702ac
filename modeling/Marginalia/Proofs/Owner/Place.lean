import Marginalia.Proofs.Scan.Place
import Marginalia.Proofs.Text.Lines

/-!
# Where declarations stand

Every declaration that is found stands on a line of the text: the text is what
stands before the line, the line itself without its newline, and what stands
after it.  From this place follow its offsets and its number, and that the lines
of declarations are in the order of their numbers.

A line that is declared does not start inside a comment.  As comments are closed
by a slash, or reach the end of their line or of the text, no comment that starts
before the line can reach into it at all.
-/

namespace Marginalia

set_option autoImplicit false

namespace Decl

/-! ## The line of a declaration -/

/-- A declaration stands on the line `text`, which comes after `before` and before `after`. -/
structure StandsOn (content : Bytes) (comments : List Comment) (d : Decl)
    (before text after : Bytes) : Prop where
  /-- the line is in the text -/
  split : content = before ++ (text ++ after)
  /-- it starts where the text or the line before it ends -/
  starts : before = [] ∨ ∃ above, before = above ++ [Bytes.newline]
  /-- it is one line -/
  oneLine : Bytes.newline ∉ text
  /-- it ends where the text or the line ends -/
  ends : after = [] ∨ ∃ below, after = Bytes.newline :: below
  lineStart : d.lineStart = before.length
  lineEnd : d.lineEnd = before.length + text.length + 1
  line : d.line = before.count Bytes.newline + 1
  /-- the line does not start in a comment -/
  outside : insideComment comments (before.length + indent text) = false

variable {matchers : List LineMatcher} {content : Bytes} {comments : List Comment}

/-- What is known of a declaration on a line. -/
theorem onLine_eq_some {line start : Nat} {text : Bytes} {next : Option Bytes} {d : Decl}
    (found : onLine matchers comments line start text next = some d) :
    insideComment comments (start + indent text) = false ∧ d.line = line ∧ d.lineStart = start ∧
      d.lineEnd = start + text.length + 1 := by
  rw [onLine] at found
  split at found
  · cases found
  · rename_i outside
    obtain ⟨_, _, rfl⟩ := Option.map_eq_some_iff.1 found
    exact ⟨Bool.not_eq_true _ ▸ outside, rfl, rfl, rfl⟩

/-- The declarations on the lines from some place of a text on.  The induction is on the lines; what
stands before the place is carried along. -/
theorem exists_onLine_of_mem_onLines {d : Decl} {texts : List Bytes} :
    ∀ before rest : Bytes, content = before ++ rest →
      (before = [] ∨ ∃ above, before = above ++ [Bytes.newline]) →
      Bytes.splitAtByte Bytes.newline rest = texts →
      d ∈ onLines matchers comments (before.count Bytes.newline + 1) before.length texts →
      ∃ before text after next, d.StandsOn content comments before text after ∧
        onLine matchers comments d.line d.lineStart text next = some d := by
  induction texts with
  | nil =>
    intro before rest split starts pieces found
    cases found
  | cons text texts ih =>
    intro before rest split starts pieces found
    rw [onLines, List.mem_append, Option.mem_toList] at found
    rcases Bytes.splitAtByte_cases Bytes.newline rest with
      ⟨absent, whole⟩ | ⟨piece, more, cut, absent, first⟩
    · rw [whole] at pieces
      cases pieces
      rcases found with here | later
      · obtain ⟨outside, line, lineStart, lineEnd⟩ := onLine_eq_some here
        rw [← line, ← lineStart] at here
        refine ⟨before, text, [], _, ⟨?_, starts, absent, .inl rfl, lineStart, lineEnd, line,
          outside⟩, here⟩
        rw [split, List.append_nil]
      · cases later
    · rw [first] at pieces
      cases pieces
      rcases found with here | later
      · obtain ⟨outside, line, lineStart, lineEnd⟩ := onLine_eq_some here
        rw [← line, ← lineStart] at here
        refine ⟨before, text, Bytes.newline :: more, _, ⟨?_, starts, absent, .inr ⟨more, rfl⟩,
          lineStart, lineEnd, line, outside⟩, here⟩
        rw [split, cut]
      · have length : (before ++ (text ++ [Bytes.newline])).length
            = before.length + text.length + 1 := by
          simp only [List.length_append, List.length_singleton]
          omega
        have count : (before ++ (text ++ [Bytes.newline])).count Bytes.newline
            = before.count Bytes.newline + 1 := by
          rw [List.count_append, List.count_append, List.count_eq_zero_of_not_mem absent]
          rfl
        refine ih (before ++ (text ++ [Bytes.newline])) more ?_ ?_ rfl ?_
        · rw [split, cut]
          simp only [List.append_assoc, List.singleton_append]
        · exact .inr ⟨before ++ text, (List.append_assoc _ _ _).symm⟩
        · rw [length, count]
          exact later

/-- Every declaration stands on a line, and was found there. -/
theorem exists_onLine {d : Decl} (found : d ∈ find matchers content comments) :
    ∃ before text after next, d.StandsOn content comments before text after ∧
      onLine matchers comments d.line d.lineStart text next = some d :=
  exists_onLine_of_mem_onLines [] content rfl (.inl rfl) rfl found

theorem lineStart_le_of_mem_onLines {line start : Nat} {texts : List Bytes} {d : Decl}
    (found : d ∈ onLines matchers comments line start texts) : start ≤ d.lineStart := by
  induction texts generalizing line start with
  | nil => cases found
  | cons text texts ih =>
    rw [onLines, List.mem_append, Option.mem_toList] at found
    rcases found with here | later
    · obtain ⟨-, -, lineStart, -⟩ := onLine_eq_some here
      omega
    · have := ih later
      omega

/-- What holds of the declaration on a line and all on the lines below it holds of any two, since a
line has one declaration at most. -/
theorem onLines_pairwise {before : Decl → Decl → Prop}
    (step : ∀ {line start : Nat} {text : Bytes} {texts : List Bytes} {d e : Decl},
      onLine matchers comments line start text texts.head? = some d →
        e ∈ onLines matchers comments (line + 1) (start + text.length + 1) texts → before d e)
    (line start : Nat) (texts : List Bytes) :
    (onLines matchers comments line start texts).Pairwise before := by
  induction texts generalizing line start with
  | nil => exact .nil
  | cons text texts ih =>
    rw [onLines, List.pairwise_append]
    refine ⟨?_, ih _ _, ?_⟩
    · cases onLine matchers comments line start text texts.head? with
      | none => exact .nil
      | some d => exact List.pairwise_singleton _ _
    · exact fun d here e later => step (Option.mem_toList.1 here) later

/-- Declarations are found in the order of their lines, one on each. -/
theorem find_pairwise (matchers : List LineMatcher) (content : Bytes) (comments : List Comment) :
    (find matchers content comments).Pairwise fun d e => d.lineEnd ≤ e.lineStart := by
  refine onLines_pairwise (fun here later => ?_) 1 0 _
  obtain ⟨-, -, -, lineEnd⟩ := onLine_eq_some here
  rw [lineEnd]
  exact lineStart_le_of_mem_onLines later

/-- The body may open anywhere on the line. -/
theorem lineEnd_le_headEnd {d : Decl} (found : d ∈ find matchers content comments) :
    d.lineEnd ≤ d.headEnd := by
  obtain ⟨_, text, _, next, _, here⟩ := exists_onLine found
  rw [onLine] at here
  split at here
  · cases here
  · obtain ⟨_, _, same⟩ := Option.map_eq_some_iff.1 here
    rw [← same]
    simp only
    omega

/-- **Every declaration stands on a line.** -/
theorem exists_standsOn {d : Decl} (found : d ∈ find matchers content comments) :
    ∃ before text after, d.StandsOn content comments before text after := by
  obtain ⟨before, text, after, _, place, _⟩ := exists_onLine found
  exact ⟨before, text, after, place⟩

namespace StandsOn

variable {d e : Decl} {before text after before' text' after' : Bytes}

/-- The newlines before a place on the line are those before the line. -/
theorem count_take_le (place : d.StandsOn content comments before text after) {n : Nat}
    (inside : n < d.lineEnd) : (content.take n).count Bytes.newline + 1 ≤ d.line := by
  have bound : n ≤ (before ++ text).length := by
    rw [List.length_append]
    have := place.lineEnd
    omega
  have initial : (content.take n).Sublist (before ++ text) := by
    rw [place.split, ← List.append_assoc, List.take_append_of_le_length bound]
    exact List.take_sublist _ _
  have counted := initial.count_le Bytes.newline
  rw [List.count_append, List.count_eq_zero_of_not_mem place.oneLine] at counted
  rw [place.line]
  omega

/-- From the end of the line on there is one newline more. -/
theorem lt_count_take (place : d.StandsOn content comments before text after) {n : Nat}
    (beyond : d.lineEnd ≤ n) (inside : d.lineEnd ≤ content.length) :
    d.line < (content.take n).count Bytes.newline + 1 := by
  rcases place.ends with rfl | ⟨below, rfl⟩
  · have length := congrArg List.length place.split
    have := place.lineEnd
    simp only [List.append_nil, List.length_append] at length
    omega
  · have initial : (before ++ (text ++ [Bytes.newline])).Sublist (content.take n) := by
      have length : (before ++ (text ++ [Bytes.newline])).length = d.lineEnd := by
        rw [place.lineEnd]
        simp only [List.length_append, List.length_singleton]
        omega
      have taken : content.take d.lineEnd = before ++ (text ++ [Bytes.newline]) := by
        rw [← length, place.split]
        have regroup : before ++ (text ++ Bytes.newline :: below)
            = before ++ (text ++ [Bytes.newline]) ++ below := by
          simp only [List.append_assoc, List.singleton_append]
        rw [regroup, List.take_left']
        rfl
      rw [← taken]
      exact List.take_sublist_take_left beyond
    have counted := initial.count_le Bytes.newline
    rw [List.count_append, List.count_append, List.count_singleton_self] at counted
    rw [place.line]
    omega

theorem lineStart_le (place : d.StandsOn content comments before text after) :
    d.lineStart ≤ content.length := by
  rw [place.lineStart, place.split, List.length_append]
  omega

/-- The blanks a line starts with are in the text. -/
theorem indent_le (place : d.StandsOn content comments before text after) :
    d.lineStart + indent text ≤ content.length := by
  have blanks : indent text ≤ text.length := (List.takeWhile_prefix _).length_le
  rw [place.lineStart, place.split, List.length_append, List.length_append]
  omega

/-- The lines of declarations come in the order of their numbers. -/
theorem lineEnd_le_lineStart (place : d.StandsOn content comments before text after)
    (place' : e.StandsOn content comments before' text' after') (earlier : d.line < e.line) :
    d.lineEnd ≤ e.lineStart := by
  by_contra inside
  have counted := place.count_take_le (Nat.lt_of_not_le inside)
  rw [place'.lineStart, place'.split, List.take_left' rfl, ← place'.line] at counted
  omega

/-- The bytes before the first that is not blank, and the newline before the line. -/
theorem blank_of_lt_indent (place : d.StandsOn content comments before text after) {i : Nat}
    (first : d.lineStart ≤ i + 1) (last : i < before.length + indent text) :
    content[i]? = some Bytes.newline ∨ content[i]? = some Bytes.space ∨
      content[i]? = some Bytes.tab := by
  have start := place.lineStart
  rcases Nat.lt_or_ge i before.length with outside | inside
  · rcases place.starts with rfl | ⟨above, rfl⟩
    · cases outside
    · have at_end : i = above.length := by
        simp only [List.length_append, List.length_singleton] at start outside
        omega
      refine .inl ?_
      rw [place.split, List.getElem?_append_left outside, at_end, List.getElem?_concat_length]
  · have blanks : i - before.length < (text.takeWhile fun b => b == 32 || b == 9).length := by
      rw [indent] at last
      omega
    have bound := Nat.lt_of_lt_of_le blanks (List.takeWhile_prefix _).length_le
    have known : (text.takeWhile fun b => b == 32 || b == 9)[i - before.length]
        = text[i - before.length] := (List.takeWhile_prefix _).getElem blanks
    have blank := List.mem_takeWhile_imp (List.getElem_mem blanks)
    rw [known] at blank
    rw [place.split, List.getElem?_append_right inside, List.getElem?_append_left bound,
      List.getElem?_eq_getElem bound]
    rcases Bool.or_eq_true _ _ ▸ blank with space | tab
    · exact .inr (.inl (congrArg some (eq_of_beq space)))
    · exact .inr (.inr (congrArg some (eq_of_beq tab)))

end StandsOn

/-! ## Comments above a declaration -/

/-- Where no comment is, every comment that starts before has ended. -/
theorem ending_le_of_outside {offset : Nat} {c : Comment}
    (sorted : comments.Pairwise fun c d => c.offset ≤ d.offset)
    (outside : insideComment comments offset = false) (member : c ∈ comments)
    (starts : c.offset ≤ offset) : c.ending ≤ offset := by
  have reached : c ∈ comments.takeWhile fun c => c.offset ≤ offset := by
    induction comments with
    | nil => cases member
    | cons first rest ih =>
      rw [List.pairwise_cons] at sorted
      have early : first.offset ≤ offset := by
        rcases List.mem_cons.1 member with rfl | later
        · exact starts
        · exact Nat.le_trans (sorted.1 c later) starts
      rw [insideComment, List.takeWhile_cons_of_pos (by simpa using early), List.any_cons,
        Bool.or_eq_false_iff] at outside
      rw [List.takeWhile_cons_of_pos (by simpa using early)]
      rcases List.mem_cons.1 member with rfl | later
      · exact List.mem_cons_self
      · exact List.mem_cons_of_mem _ (ih sorted.2 outside.2 later)
  have ended := List.any_eq_false.1 outside c reached
  simpa using ended

variable {normalize : Bool} {c : Comment} {d : Decl} {before text after : Bytes}

/-- A comment that starts before the line of a declaration ends before it, or takes in the rest of the
text, which is then blank from the line on.  It cannot end between the newline and the first byte that
is not blank, since a comment that goes over a newline ends at a slash or with the text. -/
theorem ending_lt_or_eq (member : c ∈ (Scan.ofText normalize content).comments)
    (place : d.StandsOn content (Scan.ofText normalize content).comments before text after)
    (above : c.offset < d.lineStart) :
    c.ending < d.lineStart ∨
      c.ending = content.length ∧ d.lineStart + indent text = content.length := by
  have start := place.lineStart
  have ended : c.ending ≤ before.length + indent text :=
    ending_le_of_outside (Scan.comments_sorted normalize content) place.outside member (by omega)
  by_contra neither
  rw [not_or] at neither
  obtain ⟨reaches, within⟩ := neither
  obtain ⟨_, l, rest, stands⟩ := Scan.exists_standsAt member
  rcases stands.ends with oneLine | ⟨s, slash⟩ | rfl
  · -- the newline before the line would be a byte of the comment
    have newline : content[d.lineStart - 1]? = some Bytes.newline := by
      rcases place.starts with rfl | ⟨top, rfl⟩
      · rw [start] at above
        cases above
      · rw [place.split, start, List.length_append, List.length_singleton, Nat.add_sub_cancel,
          List.append_assoc, List.getElem?_append_right (Nat.le_refl _), Nat.sub_self]
        rfl
    rw [stands.getElem?_content (by omega) (by omega)] at newline
    exact oneLine (List.mem_of_getElem? newline)
  · -- the closing slash would be a blank
    have last : content[c.ending - 1]? = some Bytes.slash := by
      have nonempty := stands.offset_lt_ending
      have position : c.ending - 1 - c.offset = s.length := by
        have := stands.offset
        have := stands.ending
        rw [slash, List.length_append, List.length_singleton] at this
        omega
      rw [stands.getElem?_content (by omega) (by omega), position, slash,
        List.getElem?_concat_length]
    have blank := place.blank_of_lt_indent (i := c.ending - 1) (by omega)
      (by have := stands.offset_lt_ending; omega)
    rw [last] at blank
    revert blank
    decide
  · -- with the text the comment would end behind the blanks
    have whole : c.ending = content.length := by
      rw [stands.ending, stands.split, List.append_nil, List.length_append]
    have bound := place.indent_le
    omega

/-- Before a line that ends with a newline, every comment that starts above has ended. -/
theorem ending_lt_lineStart (member : c ∈ (Scan.ofText normalize content).comments)
    (place : d.StandsOn content (Scan.ofText normalize content).comments before text after)
    (inside : d.lineEnd ≤ content.length) (above : c.offset < d.lineStart) :
    c.ending < d.lineStart := by
  rcases ending_lt_or_eq member place above with ended | ⟨-, blank⟩
  · exact ended
  · have blanks : indent text ≤ text.length := (List.takeWhile_prefix _).length_le
    have := place.lineStart
    have := place.lineEnd
    omega

/-- **A comment that starts before the line of a declaration ends on an earlier line.** -/
theorem lastLine_lt_line (member : c ∈ (Scan.ofText normalize content).comments)
    (place : d.StandsOn content (Scan.ofText normalize content).comments before text after)
    (inside : d.lineEnd ≤ content.length) (above : c.offset < d.lineStart) :
    lastLine c < d.line := by
  have ended := ending_lt_lineStart member place inside above
  obtain ⟨_, _, _, stands⟩ := Scan.exists_standsAt member
  rcases place.starts with rfl | ⟨top, rfl⟩
  · rw [place.lineStart] at above
    cases above
  · have initial : (content.take c.ending).Sublist top := by
      have bound : c.ending ≤ top.length := by
        rw [place.lineStart, List.length_append, List.length_singleton] at ended
        omega
      rw [place.split, List.append_assoc, List.take_append_of_le_length bound]
      exact List.take_sublist _ _
    have counted := initial.count_le Bytes.newline
    rw [stands.lastLine_eq, place.line, List.count_append, List.count_singleton_self]
    omega

end Decl

end Marginalia
