import Marginalia.Owner.Decl
import Marginalia.Proofs.Scan.Reading
import Marginalia.Proofs.Source.Position
import Marginalia.Proofs.Text.Normal

/-!
# Where the comments of a scan stand

Every comment that a scan finds was read as a lexeme at some place of the text:
the text is what stands before the comment, the bytes of its lexeme, and what
stands after it.  From this place follow its offsets, the line it starts on, the
line it ends on, and the order of the comments.

A place remembers that the lexeme was read there.  That is how a line comment is
known to hold no newline, and a block comment that is not closed to reach the end
of the text.
-/

namespace Marginalia

set_option autoImplicit false

/-! ## What reading one lexeme can give -/

namespace Lexeme

/-- What the first lexeme of a text can be: a line comment after two slashes, a block comment after a
slash and a star, or no comment at all. -/
theorem read_cases (b : UInt8) (rest : Bytes) :
    (∃ s, b :: rest = Bytes.slash :: Bytes.slash :: s ∧
      read b rest = (.lineComment (readLine s).1, (readLine s).2)) ∨
    (∃ s, b :: rest = Bytes.slash :: star :: s ∧
      read b rest = (.blockComment (readBlock s).1 (readBlock s).2.1, (readBlock s).2.2)) ∨
    Scan.commentBody? (read b rest).1 = none := by
  by_cases hb : b = Bytes.slash
  · subst hb
    unfold read
    rw [if_pos rfl]
    split
    · rename_i s
      exact .inl ⟨s, rfl, rfl⟩
    · rename_i s
      exact .inr (.inl ⟨s, rfl, rfl⟩)
    · exact .inr (.inr rfl)
  · refine .inr (.inr ?_)
    unfold read
    rw [if_neg hb]
    repeat' split
    all_goals rfl

/-! ## Where lexemes stand -/

theorem le_of_mem_located {start o : Nat} {l : Lexeme} {ls : List Lexeme}
    (h : (o, l) ∈ located start ls) : start ≤ o := by
  induction ls generalizing start with
  | nil => cases h
  | cons k ls ih =>
    rcases List.mem_cons.1 h with here | later
    · cases here
      exact Nat.le_refl _
    · exact Nat.le_trans (Nat.le_add_right _ _) (ih later)

/-- Lexemes follow each other. -/
theorem located_pairwise (start : Nat) (ls : List Lexeme) :
    (located start ls).Pairwise fun x y => x.1 + x.2.bytes.length ≤ y.1 := by
  induction ls generalizing start with
  | nil => exact .nil
  | cons l ls ih => exact .cons (fun y hy => le_of_mem_located hy) (ih _)

/-- **The place of a lexeme**: it was read from what stands at its offset. -/
theorem exists_place_of_mem_located {s : Bytes} {start o : Nat} {l : Lexeme}
    (h : (o, l) ∈ located start (ofText s)) :
    ∃ before b rest after, s = before ++ b :: rest ∧ o = start + before.length ∧
      read b rest = (l, after) := by
  fun_induction ofText s generalizing start with
  | case1 => cases h
  | case2 b rest ih =>
    rcases List.mem_cons.1 h with here | later
    · cases here
      exact ⟨[], b, rest, (read b rest).2, rfl, rfl, rfl⟩
    · obtain ⟨before, c, more, after, split, offset, reads⟩ := ih later
      refine ⟨(read b rest).1.bytes ++ before, c, more, after, ?_, ?_, reads⟩
      · rw [List.append_assoc, ← split, bytes_read]
      · rw [offset, List.length_append, Nat.add_assoc]

end Lexeme

/-! ## Where comments stand -/

/-- A comment of a text stands after `before` and before `after`, and was read there as the lexeme
`l`. -/
structure Comment.StandsAt (content : Bytes) (c : Comment) (before : Bytes) (l : Lexeme)
    (after : Bytes) : Prop where
  /-- the place is in the text -/
  split : content = before ++ (l.bytes ++ after)
  /-- the lexeme was read there -/
  reads : ∃ b rest, Lexeme.read b rest = (l, after)
  /-- it is a comment -/
  body : ∃ text, Scan.commentBody? l = some (c.kind, text)
  offset : c.offset = before.length
  ending : c.ending = before.length + l.bytes.length
  start : c.start = c.offset
  stop : c.stop = c.ending
  line : c.line = before.count Bytes.newline + 1
  lastLine : Decl.lastLine c = (before ++ l.bytes).count Bytes.newline + 1

namespace Scan

/-- The texts of comments may be normalised, which keeps their newlines. -/
def shape (normalize : Bool) : Bytes → Bytes := if normalize then Bytes.compose else id

theorem count_newline_shape (normalize : Bool) (s : Bytes) :
    (shape normalize s).count Bytes.newline = s.count Bytes.newline := by
  cases normalize with
  | false => rfl
  | true => exact Bytes.count_newline_compose s

/-- **Every comment stands somewhere.** -/
theorem exists_standsAt {normalize : Bool} {content : Bytes} {c : Comment}
    (h : c ∈ (ofText normalize content).comments) :
    ∃ before l after, c.StandsAt content before l after := by
  obtain ⟨⟨o, l⟩, member, found⟩ := List.mem_filterMap.1 h
  obtain ⟨before, b, rest, after, split, offset, reads⟩ :=
    Lexeme.exists_place_of_mem_located member
  have whole : content = before ++ (l.bytes ++ after) := by
    have joined := Lexeme.bytes_read b rest
    rw [reads] at joined
    rw [split, joined]
  rw [Nat.zero_add] at offset
  subst offset
  have line : (lineColumn (lineIndex content) before.length).1
      = before.count Bytes.newline + 1 := by
    rw [line_eq_count, whole, List.take_left']
    rfl
  simp only [comment?, Option.map_eq_some_iff, Prod.exists] at found
  obtain ⟨kind, text, isComment, rfl⟩ := found
  refine ⟨before, l, after, whole, ⟨b, rest, reads⟩, ⟨text, isComment⟩, ?_, ?_, ?_, ?_, ?_, ?_⟩
  · rfl
  · simp only [Comment.ending]
    omega
  · rfl
  · simp only [Comment.ending]
    omega
  · simp only [line]
    rfl
  · have counted := count_newline_shape normalize l.bytes
    rw [List.count_append]
    simp only [shape] at counted
    simp only [Decl.lastLine, line, counted]
    omega

/-- Comments follow each other. -/
theorem comments_pairwise (normalize : Bool) (content : Bytes) :
    (ofText normalize content).comments.Pairwise fun c d => c.ending ≤ d.offset := by
  refine List.Pairwise.filterMap _ ?_ (Lexeme.located_pairwise 0 (Lexeme.ofText content))
  rintro ⟨o, l⟩ ⟨p, m⟩ follows c first d second
  simp only [comment?, Option.map_eq_some_iff, Prod.exists] at first second
  obtain ⟨_, _, _, rfl⟩ := first
  obtain ⟨_, _, _, rfl⟩ := second
  simp only [Comment.ending, Comment.offset]
  simp only at follows
  omega

theorem offset_of_brace? {o : Nat} {l : Lexeme} {b : Brace} (picked : brace? (o, l) = some b) :
    b.offset = o := by
  cases l with
  | openBrace =>
    cases picked
    rfl
  | closeBrace =>
    cases picked
    rfl
  | _ => cases picked

/-- Braces follow each other. -/
theorem braces_pairwise (normalize : Bool) (content : Bytes) :
    (ofText normalize content).braces.Pairwise fun b d => b.offset < d.offset := by
  refine List.Pairwise.filterMap _ ?_ (Lexeme.located_pairwise 0 (Lexeme.ofText content))
  rintro ⟨o, l⟩ ⟨p, m⟩ follows b first d second
  have nonempty := List.length_pos_iff.2 (Lexeme.bytes_ne_nil l)
  rw [offset_of_brace? first, offset_of_brace? second]
  simp only at follows
  omega

end Scan

namespace Comment.StandsAt

variable {content before after : Bytes} {c : Comment} {l : Lexeme}

theorem ending_le (place : c.StandsAt content before l after) : c.ending ≤ content.length := by
  rw [place.ending, place.split, List.length_append, List.length_append]
  omega

theorem offset_lt_ending (place : c.StandsAt content before l after) : c.offset < c.ending := by
  have nonempty := List.length_pos_iff.2 (Lexeme.bytes_ne_nil l)
  rw [place.offset, place.ending]
  omega

/-- The line a comment starts on, counted from the offset. -/
theorem line_eq (place : c.StandsAt content before l after) :
    c.line = (content.take c.offset).count Bytes.newline + 1 := by
  rw [place.line, place.offset, place.split, List.take_left']
  rfl

/-- The line a comment ends on, counted from the offset after it. -/
theorem lastLine_eq (place : c.StandsAt content before l after) :
    Decl.lastLine c = (content.take c.ending).count Bytes.newline + 1 := by
  rw [place.lastLine, place.ending, place.split, ← List.append_assoc, List.take_left']
  rw [List.length_append]

/-- Where a comment ends: on its own line, at a slash, or with the text. -/
theorem ends (place : c.StandsAt content before l after) :
    Bytes.newline ∉ l.bytes ∨ (∃ s, l.bytes = s ++ [Bytes.slash]) ∨ after = [] := by
  obtain ⟨b, rest, reads⟩ := place.reads
  obtain ⟨text, isComment⟩ := place.body
  rcases Lexeme.read_cases b rest with ⟨s, -, line⟩ | ⟨s, -, block⟩ | none
  · rw [reads] at line
    cases line
    refine .inl ?_
    simp only [Lexeme.bytes, List.cons_append, List.nil_append, List.mem_cons, not_or]
    exact ⟨by decide, by decide, Lexeme.newline_notMem_readLine s⟩
  · rw [reads] at block
    cases block
    cases closed : (Lexeme.readBlock s).2.1 with
    | false => exact .inr (.inr (Lexeme.rest_of_readBlock_open closed))
    | true =>
      refine .inr (.inl ⟨[Bytes.slash, Lexeme.star] ++ (Lexeme.readBlock s).1 ++ [Lexeme.star], ?_⟩)
      simp only [Lexeme.bytes, if_true, List.append_assoc, List.cons_append, List.nil_append]
  · rw [reads, isComment] at none
    cases none

/-- The bytes of a comment, by their offsets in the text. -/
theorem getElem?_content (place : c.StandsAt content before l after) {i : Nat}
    (first : c.offset ≤ i) (last : i < c.ending) : content[i]? = l.bytes[i - c.offset]? := by
  have := place.offset
  have := place.ending
  rw [place.split, List.getElem?_append_right (by omega), place.offset,
    List.getElem?_append_left (by omega)]

end Comment.StandsAt

/-! ## The order of comments -/

namespace Scan

variable {normalize : Bool} {content : Bytes} {c d : Comment}

theorem offset_lt_ending (h : c ∈ (ofText normalize content).comments) : c.offset < c.ending := by
  obtain ⟨before, l, after, place⟩ := exists_standsAt h
  exact place.offset_lt_ending

/-- Comments come in the order of their starts. -/
theorem comments_sorted (normalize : Bool) (content : Bytes) :
    (ofText normalize content).comments.Pairwise fun c d => c.offset ≤ d.offset :=
  (comments_pairwise normalize content).imp_of_mem fun first _ follows =>
    Nat.le_trans (Nat.le_of_lt (offset_lt_ending first)) follows

/-- A comment starts with a slash. -/
theorem getElem?_offset (member : c ∈ (ofText normalize content).comments) :
    content[c.offset]? = some Bytes.slash := by
  obtain ⟨before, l, after, stands⟩ := exists_standsAt member
  rw [stands.getElem?_content (Nat.le_refl _) stands.offset_lt_ending, Nat.sub_self]
  obtain ⟨b, rest, reads⟩ := stands.reads
  obtain ⟨text, isComment⟩ := stands.body
  rcases Lexeme.read_cases b rest with ⟨s, -, line⟩ | ⟨s, -, block⟩ | none
  · rw [reads] at line
    cases line
    rfl
  · rw [reads] at block
    cases block
    rfl
  · rw [reads, isComment] at none
    cases none

/-- A comment ends at the latest on the line on which the next one starts. -/
theorem lastLine_le_line (first : c ∈ (ofText normalize content).comments)
    (second : d ∈ (ofText normalize content).comments) (follows : c.ending ≤ d.offset) :
    Decl.lastLine c ≤ d.line := by
  obtain ⟨_, _, _, place⟩ := exists_standsAt first
  obtain ⟨_, _, _, place'⟩ := exists_standsAt second
  have counted := (List.take_sublist_take_left (l := content) follows).count_le Bytes.newline
  rw [place.lastLine_eq, place'.line_eq]
  omega

/-- The span of a comment does not wrap in a text of less than 2^32 bytes. -/
theorem span_of_short (short : content.length < UInt32.size) (file : Nat)
    (h : c ∈ (ofText normalize content).comments) :
    ((c.span file).start.toNat : Int) = c.start ∧ ((c.span file).stop.toNat : Int) = c.stop := by
  obtain ⟨before, l, after, place⟩ := exists_standsAt h
  have inside := place.ending_le
  have forward := place.offset_lt_ending
  have start : c.start.toNat = c.offset := rfl
  have stop : c.stop.toNat = c.ending := rfl
  rw [place.start, place.stop]
  rw [UInt32.size] at short
  simp only [Comment.span, Nat.toUInt32_eq, UInt32.toNat_ofNat', start, stop]
  omega

end Scan

end Marginalia
