import Marginalia.Text.Bytes

/-!
# The lines of a text

Splitting a text at a byte is splitting a list at an element, so joining the pieces
with that byte gives the text back.  A text that does not have the byte is one piece,
and otherwise what stands before its first occurrence is the first piece.  Statements
about lines are proved along these two cases (`lines_induction`).
-/

namespace Marginalia

set_option autoImplicit false

namespace Bytes

theorem splitAtByte_eq_splitOn (sep : UInt8) (s : Bytes) : splitAtByte sep s = s.splitOn sep := by
  induction s with
  | nil => rfl
  | cons b s ih =>
    rw [splitAtByte, List.splitOn, List.splitOnP_cons_eq_if_modifyHead, ← List.splitOn, ← ih]
    by_cases same : b = sep
    · simp [same]
    · simp only [same, beq_iff_eq, if_false]
      cases pieces : splitAtByte sep s with
      | nil => exact absurd pieces (splitAtByte_ne_nil sep s)
      | cons piece pieces => rfl

theorem splitAtByte_of_notMem {sep : UInt8} {s : Bytes} (absent : sep ∉ s) :
    splitAtByte sep s = [s] := by
  rw [splitAtByte_eq_splitOn]
  apply List.splitOnP_eq_singleton
  intro b member
  rw [beq_eq_false_iff_ne]
  rintro rfl
  exact absent member

/-- The first piece is what stands before the first separator. -/
theorem splitAtByte_cut {sep : UInt8} {piece : Bytes} (absent : sep ∉ piece) (rest : Bytes) :
    splitAtByte sep (piece ++ sep :: rest) = piece :: splitAtByte sep rest := by
  rw [splitAtByte_eq_splitOn, splitAtByte_eq_splitOn]
  apply List.splitOnP_append_cons_of_forall_mem
  · intro b member
    rw [beq_eq_false_iff_ne]
    rintro rfl
    exact absent member
  · exact beq_self_eq_true sep

/-- **The pieces of a text, joined with the separator, are the text.** -/
theorem join_splitAtByte (sep : UInt8) (s : Bytes) : join [sep] (splitAtByte sep s) = s := by
  rw [splitAtByte_eq_splitOn]
  exact List.intercalate_splitOn sep

/-- What is neither in the separator nor in a piece is not in the pieces joined. -/
theorem notMem_join {b : UInt8} {sep : Bytes} {pieces : List Bytes} (apart : b ∉ sep)
    (absent : ∀ piece ∈ pieces, b ∉ piece) : b ∉ join sep pieces := by
  induction pieces with
  | nil => exact List.not_mem_nil
  | cons piece rest ih =>
    rw [List.forall_mem_cons] at absent
    cases rest with
    | nil => simpa [join] using absent.1
    | cons piece' rest =>
      have later : b ∉ join sep (piece' :: rest) := ih absent.2
      simpa [join, apart, absent.1] using later

/-- A text without the separator is one piece; otherwise the first piece is what stands before the
first separator, and the others are those of what follows it. -/
theorem splitAtByte_cases (sep : UInt8) (s : Bytes) :
    (sep ∉ s ∧ splitAtByte sep s = [s]) ∨
    ∃ piece rest, s = piece ++ sep :: rest ∧ sep ∉ piece ∧
      splitAtByte sep s = piece :: splitAtByte sep rest := by
  by_cases member : sep ∈ s
  · obtain ⟨piece, rest, split, absent⟩ := List.eq_append_cons_of_mem member
    refine .inr ⟨piece, rest, split, absent, ?_⟩
    rw [split, splitAtByte_cut absent]
  · exact .inl ⟨member, splitAtByte_of_notMem member⟩

/-- A text has one piece more than separators. -/
theorem length_splitAtByte (sep : UInt8) (s : Bytes) :
    (splitAtByte sep s).length = s.count sep + 1 := by
  induction s with
  | nil => rfl
  | cons b s ih =>
    rw [splitAtByte]
    by_cases same : b = sep
    · rw [if_pos same, List.length_cons, ih, same, List.count_cons_self]
    · rw [if_neg same, List.count_cons_of_ne same, ← ih]
      cases pieces : splitAtByte sep s with
      | nil => exact absurd pieces (splitAtByte_ne_nil sep s)
      | cons piece pieces => rfl

theorem lines_of_oneLine {s : Bytes} (oneLine : newline ∉ s) : s.lines = [s] :=
  splitAtByte_of_notMem oneLine

theorem lines_cut {piece : Bytes} (absent : newline ∉ piece) (rest : Bytes) :
    lines (piece ++ newline :: rest) = piece :: rest.lines :=
  splitAtByte_cut absent rest

theorem count_newline_cut {piece : Bytes} (absent : newline ∉ piece) (rest : Bytes) :
    (piece ++ newline :: rest).count newline = rest.count newline + 1 := by
  rw [List.count_append, List.count_eq_zero_of_not_mem absent, List.count_cons_self, Nat.zero_add]

/-- What holds of a single line, and of a text in lines when it holds of what follows its first line,
holds of every text. -/
@[elab_as_elim]
theorem lines_induction {motive : Bytes → Prop} (s : Bytes)
    (oneLine : ∀ s, newline ∉ s → motive s)
    (line : ∀ piece rest, newline ∉ piece → motive rest → motive (piece ++ newline :: rest)) :
    motive s := by
  induction length : s.length using Nat.strongRecOn generalizing s with
  | _ n ih =>
    by_cases member : newline ∈ s
    · obtain ⟨piece, rest, split, absent⟩ := List.eq_append_cons_of_mem member
      have shorter : rest.length < n := by
        rw [← length, split, List.length_append, List.length_cons]
        omega
      rw [split]
      exact line piece rest absent (ih rest.length shorter rest rfl)
    · exact oneLine s member

/-- What stands before a text, without a newline, stands before its first line. -/
theorem lines_append {s : Bytes} (oneLine : newline ∉ s) (t : Bytes) (i : Nat) :
    (s ++ t).lines[i]? = t.lines[i]?.map fun line => if i = 0 then s ++ line else line := by
  induction t using lines_induction with
  | oneLine t oneLine' =>
    have oneLine'' : newline ∉ s ++ t := by simp [oneLine, oneLine']
    rw [lines_of_oneLine oneLine'', lines_of_oneLine oneLine']
    cases i with
    | zero => rfl
    | succ i => rfl
  | line piece rest absent _ =>
    have absent' : newline ∉ s ++ piece := by simp [oneLine, absent]
    rw [← List.append_assoc, lines_cut absent', lines_cut absent]
    cases i with
    | zero => rfl
    | succ i => simp

/-! ## The place of a line -/

/-- The line `text` of a content, after `before` and before `after`. -/
structure IsLine (content before text after : Bytes) : Prop where
  /-- the line is in the content -/
  split : content = before ++ (text ++ after)
  /-- it starts where the content starts or the line before it has ended -/
  starts : before = [] ∨ ∃ above, before = above ++ [newline]
  /-- it is one line -/
  oneLine : newline ∉ text
  /-- it ends where the content ends or with a newline -/
  ends : after = [] ∨ ∃ below, after = newline :: below

/-- What stands before the first separator is known from the whole. -/
theorem cut_unique {sep : UInt8} {piece piece' rest rest' : Bytes} (absent : sep ∉ piece)
    (absent' : sep ∉ piece') (same : piece ++ sep :: rest = piece' ++ sep :: rest') :
    piece = piece' ∧ rest = rest' := by
  have pieces := congrArg (splitAtByte sep) same
  rw [splitAtByte_cut absent, splitAtByte_cut absent'] at pieces
  obtain rfl := (List.cons.inj pieces).1
  exact ⟨rfl, (List.cons.inj (List.append_cancel_left same)).2⟩

/-- A content without a newline has itself as its only line. -/
theorem isLine_of_oneLine_iff {s before text after : Bytes} (oneLine : newline ∉ s) :
    IsLine s before text after ↔ before = [] ∧ text = s ∧ after = [] := by
  constructor
  · rintro ⟨rfl, starts, -, ends⟩
    have first : before = [] := by
      rcases starts with none | ⟨above, rfl⟩
      · exact none
      · simp at oneLine
    have last : after = [] := by
      rcases ends with none | ⟨below, rfl⟩
      · exact none
      · simp at oneLine
    exact ⟨first, by rw [first, last, List.nil_append, List.append_nil], last⟩
  · rintro ⟨rfl, rfl, rfl⟩
    exact ⟨by simp, .inl rfl, oneLine, .inl rfl⟩

/-- Where a content goes on after its first line, its lines are the first one and those of what
follows. -/
theorem isLine_cut_iff {piece rest before text after : Bytes} (absent : newline ∉ piece) :
    IsLine (piece ++ newline :: rest) before text after ↔
      (before = [] ∧ text = piece ∧ after = newline :: rest) ∨
      ∃ before', before = piece ++ newline :: before' ∧ IsLine rest before' text after := by
  constructor
  · rintro ⟨split, starts, oneLine, ends⟩
    rcases starts with rfl | ⟨above, rfl⟩
    · rw [List.nil_append] at split
      rcases ends with rfl | ⟨below, rfl⟩
      · rw [List.append_nil] at split
        rw [← split] at oneLine
        simp at oneLine
      · obtain ⟨rfl, rfl⟩ := cut_unique absent oneLine split
        exact .inl ⟨rfl, rfl, rfl⟩
    · right
      -- the first newline stands behind `piece`, so what stands before the line reaches as far
      rcases splitAtByte_cases newline (above ++ [newline]) with ⟨none, -⟩ | ⟨first, before', cut, absent', -⟩
      · simp at none
      · have whole : first ++ newline :: (before' ++ (text ++ after)) = piece ++ newline :: rest := by
          rw [split, cut, List.append_assoc, List.cons_append]
        obtain ⟨rfl, rfl⟩ := cut_unique absent' absent whole
        refine ⟨before', cut, rfl, ?_, oneLine, ends⟩
        rcases List.eq_nil_or_concat before' with none | ⟨above', b, concat⟩
        · exact .inl none
        · right
          rw [List.concat_eq_append] at concat
          rw [concat, ← List.cons_append, ← List.append_assoc] at cut
          obtain ⟨-, last⟩ := List.append_inj' cut rfl
          exact ⟨above', by rw [concat, ← last]⟩
  · rintro (⟨rfl, rfl, rfl⟩ | ⟨before', rfl, split, starts, oneLine, ends⟩)
    · exact ⟨rfl, .inl rfl, absent, .inr ⟨rest, rfl⟩⟩
    · refine ⟨by rw [split, List.append_assoc, List.cons_append], ?_, oneLine, ends⟩
      rcases starts with rfl | ⟨above, rfl⟩
      · exact .inr ⟨piece, rfl⟩
      · exact .inr ⟨piece ++ newline :: above, by simp⟩

end Bytes

end Marginalia
