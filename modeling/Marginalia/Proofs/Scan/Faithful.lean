import Marginalia.Proofs.Scan.Place
import Mathlib.Data.List.Pairwise

/-!
# What a scan promises about any text

Nothing is assumed here about the text but its length: it may be damaged in any
way.  Whatever it is, the comments that a scan finds are there as they are said
to be: at their offsets, with their delimiters around their bodies, on their
lines and in their columns, one after the other.  Braces are braces of the text
outside of all comments.  A block comment that is not closed can only be the last
one, and then it is what the scan reports.

The promise is a structure, `Scan.Faithful`, and every scan keeps it
(`Scan.ofText_faithful`).
-/

namespace Marginalia

set_option autoImplicit false

/-! ## The promise -/

/-- A block comment with an opening delimiter only. -/
def Comment.Unclosed (c : Comment) : Prop :=
  c.kind = .block ∧ c.fullText = [Bytes.slash, Lexeme.star] ++ c.text

instance (c : Comment) : Decidable c.Unclosed := inferInstanceAs (Decidable (_ ∧ _))

/-- The ways a comment of a text is written. -/
inductive Comment.Written (content : Bytes) (c : Comment) : Prop
  /-- two slashes and a body up to a newline or the end of the text -/
  | line (isLine : c.kind = .line) (delimited : c.fullText = [Bytes.slash, Bytes.slash] ++ c.text)
      (oneLine : Bytes.newline ∉ c.text)
      (ends : c.ending = content.length ∨ content[c.ending]? = some Bytes.newline)
  /-- a body between delimiters, the first closing delimiter being the end -/
  | closed (isBlock : c.kind = .block)
      (delimited : c.fullText
        = [Bytes.slash, Lexeme.star] ++ c.text ++ [Lexeme.star, Bytes.slash])
      (noEnd : ¬ [Lexeme.star, Bytes.slash] <:+: c.text)
  /-- a body up to the end of the text, in which there is no closing delimiter -/
  | unclosed (isOpen : c.Unclosed) (noEnd : ¬ [Lexeme.star, Bytes.slash] <:+: c.text)
      (ends : c.ending = content.length)

/-- A comment is in a text as it is said to be. -/
structure Comment.Faithful (content : Bytes) (file : Nat) (c : Comment) : Prop where
  start : c.start = c.offset
  stop : c.stop = c.ending
  nonempty : c.offset < c.ending
  inside : c.ending ≤ content.length
  /-- the span of the comment does not wrap -/
  span : (c.span file).start.toNat = c.offset ∧ (c.span file).stop.toNat = c.ending
  fullText : c.fullText = (content.drop c.offset).take (c.ending - c.offset)
  written : c.Written content
  line : c.line = (content.take c.offset).count Bytes.newline + 1
  column : c.column = ((content.take c.offset).rtakeWhile (· != Bytes.newline)).length + 1

/-- The byte that a brace is. -/
def Brace.byte (b : Brace) : UInt8 :=
  match b.kind with
  | .opening => Lexeme.leftBrace
  | .closing => Lexeme.rightBrace

/-- What was found is in the text as it is said to be, and what is reported is the case. -/
structure Scan.Faithful (content : Bytes) (file : Nat) (s : Scan) : Prop where
  comments : ∀ c ∈ s.comments, c.Faithful content file
  ordered : s.comments.Pairwise fun c d => c.offset < d.offset ∧ c.ending ≤ d.offset
  bracesOrdered : s.braces.Pairwise fun b d => b.offset < d.offset
  braces : ∀ b ∈ s.braces, content[b.offset]? = some b.byte
  outside : ∀ b ∈ s.braces, ∀ c ∈ s.comments, b.offset < c.offset ∨ c.ending ≤ b.offset
  /-- a last comment that is not closed is reported, and nothing else -/
  reported : ∀ c ∈ s.comments.getLast?, c.Unclosed →
    s.diagnostics = [Scan.unterminated c.line c.column]
  /-- otherwise nothing is reported -/
  quiet : (∀ c ∈ s.comments.getLast?, ¬ c.Unclosed) → s.diagnostics = []

/-! ## Comments -/

namespace Scan

variable {content : Bytes}

/-- What is found at a lexeme was read there by a rule. -/
theorem exists_reads {α : Type} {pick : Nat × Lexeme → Option α} {a : α}
    (found : a ∈ (Lexeme.located 0 (Lexeme.ofText content)).filterMap pick) :
    ∃ before s l after, content = before ++ s ∧ Lexeme.Reads s l after ∧
      (before.length, l) ∈ Lexeme.located 0 (Lexeme.ofText content) ∧
      pick (before.length, l) = some a := by
  obtain ⟨⟨o, l⟩, member, picked⟩ := List.mem_filterMap.1 found
  obtain ⟨before, b, rest, after, split, offset, reads⟩ := Lexeme.exists_place_of_mem_located member
  rw [Nat.zero_add] at offset
  subst offset
  have rule := Lexeme.reads_read b rest
  rw [reads] at rule
  exact ⟨before, b :: rest, l, after, split, rule, member, picked⟩

/-- A comment that was read as the lexeme `l` after `before`. -/
def commentAt (content before : Bytes) (l : Lexeme) (kind : CommentKind) (text : Bytes) : Comment where
  kind := kind
  text := text
  fullText := l.bytes
  start := before.length
  stop := before.length + l.bytes.length
  line := (lineColumn (lineIndex content) before.length).1
  column := (lineColumn (lineIndex content) before.length).2

theorem exists_commentAt {c : Comment} (found : c ∈ (ofText false content).comments) :
    ∃ before s l after kind text, content = before ++ s ∧ Lexeme.Reads s l after ∧
      commentBody? l = some (kind, text) ∧ c = commentAt content before l kind text := by
  obtain ⟨before, s, l, after, split, reads, -, picked⟩ := exists_reads found
  obtain ⟨⟨kind, text⟩, body, rfl⟩ := Option.map_eq_some_iff.1 picked
  exact ⟨before, s, l, after, kind, text, split, reads, body, rfl⟩

@[simp] theorem offset_commentAt (before : Bytes) (l : Lexeme) (kind : CommentKind) (text : Bytes) :
    (commentAt content before l kind text).offset = before.length :=
  rfl

@[simp] theorem ending_commentAt (before : Bytes) (l : Lexeme) (kind : CommentKind) (text : Bytes) :
    (commentAt content before l kind text).ending = before.length + l.bytes.length :=
  rfl

theorem written_commentAt {before s after : Bytes} {l : Lexeme} {kind : CommentKind} {text : Bytes}
    (split : content = before ++ s) (reads : Lexeme.Reads s l after)
    (body : commentBody? l = some (kind, text)) :
    (commentAt content before l kind text).Written content := by
  have whole := reads.bytes_append
  have length : content.length = before.length + l.bytes.length + after.length := by
    rw [split, ← whole, List.length_append, List.length_append]
    omega
  cases reads with
  | lineComment oneLine ends =>
    cases body
    refine .line rfl rfl oneLine ?_
    cases after with
    | nil => exact .inl length.symm
    | cons b after =>
      refine .inr ?_
      rw [split, ← whole, ending_commentAt, ← List.append_assoc, ← List.length_append,
        List.getElem?_append_right (Nat.le_refl _), Nat.sub_self]
      exact congrArg some (ends b rfl)
  | closedBlock rest noEnd =>
    cases body
    exact .closed rfl rfl noEnd
  | openBlock noEnd =>
    cases body
    refine .unclosed ⟨rfl, ?_⟩ noEnd length.symm
    exact List.append_nil _
  | _ => cases body

/-- **Every comment is in the text as it is said to be.** -/
theorem comment_faithful (short : content.length < UInt32.size) (file : Nat) {c : Comment}
    (found : c ∈ (ofText false content).comments) : c.Faithful content file := by
  obtain ⟨starts, stops⟩ := span_of_short short file found
  obtain ⟨before, s, l, after, kind, text, split, reads, body, rfl⟩ := exists_commentAt found
  have whole := reads.bytes_append
  have nonempty := List.length_pos_iff.2 (Lexeme.bytes_ne_nil l)
  have length : content.length = before.length + l.bytes.length + after.length := by
    rw [split, ← whole, List.length_append, List.length_append]
    omega
  have position : lineColumn (lineIndex content) before.length
      = lineColumnAfter (content.take before.length) := lineColumn_eq (by omega)
  refine ⟨rfl, rfl, ?_, ?_, ⟨?_, ?_⟩, ?_, written_commentAt split reads body, ?_, ?_⟩
  · rw [offset_commentAt, ending_commentAt]
    omega
  · rw [ending_commentAt]
    omega
  · exact Int.ofNat.inj starts
  · exact Int.ofNat.inj stops
  · rw [offset_commentAt, ending_commentAt, Nat.add_sub_cancel_left, split, ← whole,
      List.drop_left' rfl, List.take_left' rfl]
    rfl
  · simp only [commentAt, position, lineColumnAfter]
    rfl
  · simp only [commentAt, position, lineColumnAfter]
    rfl

/-! ## Braces -/

/-- One of two lexemes ends before the other starts. -/
def Apart (x y : Nat × Lexeme) : Prop :=
  x.1 + x.2.bytes.length ≤ y.1 ∨ y.1 + y.2.bytes.length ≤ x.1

/-- Two lexemes of a text are the same or apart. -/
theorem located_apart {x y : Nat × Lexeme} (first : x ∈ Lexeme.located 0 (Lexeme.ofText content))
    (second : y ∈ Lexeme.located 0 (Lexeme.ofText content)) (differ : x ≠ y) : Apart x y := by
  have : Std.Symm Apart := ⟨fun _ _ => Or.symm⟩
  have apart : (Lexeme.located 0 (Lexeme.ofText content)).Pairwise Apart :=
    (Lexeme.located_pairwise 0 (Lexeme.ofText content)).imp Or.inl
  exact apart.forall first second differ

/-- A lexeme that is a brace is no comment. -/
theorem bytes_of_brace? {o : Nat} {l : Lexeme} {b : Brace} (picked : brace? (o, l) = some b) :
    l.bytes = [b.byte] ∧ commentBody? l = none := by
  cases l with
  | openBrace =>
    cases picked
    exact ⟨rfl, rfl⟩
  | closeBrace =>
    cases picked
    exact ⟨rfl, rfl⟩
  | _ => cases picked

theorem getElem?_of_mem_braces {normalize : Bool} {b : Brace}
    (found : b ∈ (ofText normalize content).braces) : content[b.offset]? = some b.byte := by
  obtain ⟨before, s, l, after, split, reads, -, picked⟩ := exists_reads found
  obtain ⟨bytes, -⟩ := bytes_of_brace? picked
  have whole := reads.bytes_append
  rw [bytes, List.singleton_append] at whole
  rw [offset_of_brace? picked, split, ← whole, List.getElem?_append_right (Nat.le_refl _), Nat.sub_self]
  rfl

theorem brace_outside {b : Brace} {c : Comment} (brace : b ∈ (ofText false content).braces)
    (comment : c ∈ (ofText false content).comments) : b.offset < c.offset ∨ c.ending ≤ b.offset := by
  obtain ⟨before, s, l, after, -, -, member, picked⟩ := exists_reads brace
  obtain ⟨before', s', l', after', -, -, member', picked'⟩ := exists_reads comment
  obtain ⟨-, notComment⟩ := bytes_of_brace? picked
  obtain ⟨⟨kind, text⟩, body, rfl⟩ := Option.map_eq_some_iff.1 picked'
  have differ : (before.length, l) ≠ (before'.length, l') := by
    intro same
    obtain ⟨-, rfl⟩ := Prod.mk.inj same
    rw [notComment] at body
    cases body
  have nonempty := List.length_pos_iff.2 (Lexeme.bytes_ne_nil l)
  rw [offset_of_brace? picked]
  rcases located_apart member member' differ with before | after
  · exact .inl (Nat.lt_of_lt_of_le (Nat.lt_add_of_pos_right nonempty) before)
  · exact .inr after

/-! ## Reports -/

/-- What is reported at a lexeme is that the comment there is not closed. -/
theorem diagnostic?_eq (index : List Nat) (x : Nat × Lexeme) :
    diagnostic? index x = ((comment? id index x).filter fun c => c.Unclosed).map
      fun c => unterminated c.line c.column := by
  obtain ⟨o, l⟩ := x
  cases l with
  | blockComment body closed =>
    cases closed with
    | true => simp [diagnostic?, comment?, commentBody?, Comment.Unclosed, Lexeme.bytes, Option.filter]
    | false => simp [diagnostic?, comment?, commentBody?, Comment.Unclosed, Lexeme.bytes, Option.filter]
  | lineComment body => simp [diagnostic?, comment?, commentBody?, Comment.Unclosed, Option.filter]
  | _ => rfl

theorem diagnostics_eq (content : Bytes) :
    (ofText false content).diagnostics
      = ((ofText false content).comments.filter fun c => c.Unclosed).map
          fun c => unterminated c.line c.column := by
  simp only [ofText, Bool.false_eq_true, if_false, List.filter_filterMap, List.map_filterMap]
  exact List.filterMap_congr fun x _ => diagnostic?_eq (lineIndex content) x

/-- A comment that is not closed has no comment after it. -/
theorem not_unclosed_of_before {file : Nat} {c d : Comment} (first : c.Faithful content file)
    (second : d.Faithful content file) (follows : c.ending ≤ d.offset) : ¬ c.Unclosed := by
  intro isOpen
  have nonempty := second.nonempty
  have inside := second.inside
  cases first.written with
  | line isLine =>
    rw [isOpen.1] at isLine
    cases isLine
  | closed _ delimited _ =>
    rw [isOpen.2] at delimited
    have length := congrArg List.length delimited
    rw [List.length_append, List.length_append, List.length_append] at length
    exact absurd length (by simp)
  | unclosed _ _ ends => omega

theorem filter_unclosed {file : Nat} {earlier : List Comment} {last : Comment}
    (faithful : ∀ c ∈ earlier ++ [last], c.Faithful content file)
    (ordered : (earlier ++ [last]).Pairwise fun c d => c.ending ≤ d.offset) :
    (earlier ++ [last]).filter (fun c => c.Unclosed) = if last.Unclosed then [last] else [] := by
  have isLast : last ∈ earlier ++ [last] := List.mem_append_right _ List.mem_cons_self
  have none : earlier.filter (fun c => c.Unclosed) = [] := by
    rw [List.filter_eq_nil_iff]
    intro c member
    have follows := (List.pairwise_append.1 ordered).2.2 c member last List.mem_cons_self
    have closed := not_unclosed_of_before (faithful c (List.mem_append_left _ member))
      (faithful last isLast) follows
    simpa using closed
  rw [List.filter_append, none, List.nil_append, List.filter_singleton]
  simp

/-! ## Every scan is faithful -/

/-- **A scan is faithful to any text** of less than 2^32 bytes. -/
theorem ofText_faithful (content : Bytes) (file : Nat) (short : content.length < UInt32.size) :
    (ofText false content).Faithful content file := by
  have comments : ∀ c ∈ (ofText false content).comments, c.Faithful content file :=
    fun c found => comment_faithful short file found
  have follow := comments_pairwise false content
  have ordered : (ofText false content).comments.Pairwise
      fun c d => c.offset < d.offset ∧ c.ending ≤ d.offset :=
    follow.imp_of_mem fun first _ follows =>
      ⟨Nat.lt_of_lt_of_le (offset_lt_ending first) follows, follows⟩
  have reports : ∀ c ∈ (ofText false content).comments.getLast?, (ofText false content).diagnostics
      = if c.Unclosed then [unterminated c.line c.column] else [] := by
    intro c last
    obtain ⟨earlier, split⟩ := List.getLast?_eq_some_iff.1 last
    rw [split] at comments follow
    rw [diagnostics_eq, split, filter_unclosed comments follow]
    split
    · rfl
    · rfl
  refine ⟨comments, ordered, braces_pairwise false content, fun b found => getElem?_of_mem_braces found,
    fun b brace c comment => brace_outside brace comment, ?_, ?_⟩
  · intro c last isOpen
    rw [reports c last, if_pos isOpen]
  · intro closed
    cases last : (ofText false content).comments.getLast? with
    | none =>
      rw [diagnostics_eq, List.getLast?_eq_none_iff.1 last]
      rfl
    | some c => rw [reports c last, if_neg (closed c last)]

/-- An apostrophe that is not answered, a string that is not closed and ends in a backslash, and a
block comment that only seems to be closed. -/
def damaged : Bytes := utf8 "it's \x7b // one\n\"// \\\n  /*/ \x7d"

theorem damaged_faithful :
    damaged.length < UInt32.size ∧ (ofText false damaged).Faithful damaged 0 ∧
    (ofText false damaged).comments.map Comment.text = [utf8 " one", utf8 "/ \x7d"] ∧
    (ofText false damaged).braces = [⟨.opening, 5⟩] ∧
    (ofText false damaged).diagnostics = [unterminated 3 3] := by
  have short : damaged.length < UInt32.size := by decide +kernel
  have faithful := ofText_faithful damaged 0 short
  refine ⟨short, faithful, by decide +kernel, by decide +kernel, ?_⟩
  exact faithful.reported
    ⟨.block, utf8 "/ \x7d", utf8 "/*/ \x7d", 22, 27, 3, 3, none⟩ (by decide +kernel) (by decide +kernel)

end Scan

end Marginalia
