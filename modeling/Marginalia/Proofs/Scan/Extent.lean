import Marginalia.Proofs.Notes.Parts
import Marginalia.Proofs.Scan.Faithful

/-!
# How much of a text its comments take up

The comments of a text stand one behind the other in it.  So what is taken from each
comment, and is no more than its bytes, is in all no more than the bytes of the text
(`Scan.length_flatMap_le`): there are no more comments than bytes, and no more
examples.  This holds for examples even when the texts of comments are normalised,
which may make them longer but keeps their lines.
-/

namespace Marginalia

set_option autoImplicit false

namespace Scan

variable {normalize : Bool} {content : Bytes} {c : Comment}

section

variable {α : Type} {pick : Comment → List α}

/-- What is taken from each of several parts that stand one behind the other, and is no more than its
bytes, is in all no more than the bytes around them. -/
theorem length_flatMap_extents_le {cs : List Comment} {low high : Nat}
    (apart : cs.Pairwise fun c d => c.ending ≤ d.offset)
    (each : ∀ c ∈ cs, low ≤ c.offset ∧ c.offset + (pick c).length ≤ c.ending ∧ c.ending ≤ high)
    (room : low ≤ high) : low + (cs.flatMap pick).length ≤ high := by
  induction cs generalizing low with
  | nil => exact room
  | cons c cs ih =>
    obtain ⟨follow, apart⟩ := List.pairwise_cons.1 apart
    obtain ⟨starts, fits, ends⟩ := each c List.mem_cons_self
    have rest := ih apart
      (fun d member => ⟨follow d member, (each d (List.mem_cons_of_mem _ member)).2⟩) ends
    rw [List.flatMap_cons, List.length_append]
    omega

theorem length_flatMap_le
    (each : ∀ c ∈ (ofText normalize content).comments, c.offset + (pick c).length ≤ c.ending) :
    ((ofText normalize content).comments.flatMap pick).length ≤ content.length := by
  have all : 0 + ((ofText normalize content).comments.flatMap pick).length ≤ content.length := by
    refine length_flatMap_extents_le (comments_pairwise normalize content) (fun c member => ?_)
      (Nat.zero_le _)
    obtain ⟨before, l, after, place⟩ := exists_standsAt member
    exact ⟨Nat.zero_le _, each c member, place.ending_le⟩
  rwa [Nat.zero_add] at all

end

/-- There are no more comments than bytes. -/
theorem length_comments_le (normalize : Bool) (content : Bytes) :
    (ofText normalize content).comments.length ≤ content.length := by
  have counted : ((ofText normalize content).comments.flatMap fun c => [c]).length ≤ content.length :=
    length_flatMap_le fun c member => offset_lt_ending member
  rwa [List.flatMap_singleton'] at counted

/-- The bytes of a comment are more than its newlines, since the first one is a slash. -/
theorem count_newline_lt {l : Lexeme} {kind : CommentKind} {text : Bytes}
    (body : commentBody? l = some (kind, text)) : l.bytes.count Bytes.newline < l.bytes.length := by
  have slash : ∃ rest, l.bytes = Bytes.slash :: rest := by
    cases l with
    | lineComment body => exact ⟨_, rfl⟩
    | blockComment body closed => exact ⟨_, rfl⟩
    | quoted | raw | openBrace | closeBrace | other => cases body
  obtain ⟨rest, bytes⟩ := slash
  rw [bytes, List.count_cons_of_ne (by decide), List.length_cons]
  exact Nat.lt_succ_of_le List.count_le_length

/-- A comment gives no more examples than it has bytes. -/
theorem examples_le_ending (member : c ∈ (ofText normalize content).comments) :
    c.offset + c.examples.length ≤ c.ending := by
  obtain ⟨before, l, after, place⟩ := exists_standsAt member
  obtain ⟨text, body⟩ := place.body
  have fewer := c.length_examples_le
  have shorter := count_newline_lt body
  have line := place.line
  have last : c.line + c.fullText.count Bytes.newline
      = ((before ++ l.bytes).count Bytes.newline : Int) + 1 := place.lastLine
  rw [List.count_append] at last
  rw [place.ending, place.offset]
  omega

theorem length_examples_le (normalize : Bool) (content : Bytes) :
    ((ofText normalize content).comments.flatMap Comment.examples).length ≤ content.length :=
  length_flatMap_le fun _ member => examples_le_ending member

/-- The line and the column of a comment exceed the bytes before it by one at most. -/
theorem line_column_le (member : c ∈ (ofText normalize content).comments) :
    0 ≤ c.line ∧ c.line ≤ c.offset + 1 ∧ 0 ≤ c.column ∧ c.column ≤ c.offset + 1 := by
  obtain ⟨⟨o, l⟩, -, found⟩ := List.mem_filterMap.1 member
  obtain ⟨⟨kind, text⟩, -, rfl⟩ := Option.map_eq_some_iff.1 found
  have line := line_eq_count content o
  have counted : (content.take o).count Bytes.newline ≤ (content.take o).length :=
    List.count_le_length
  rw [List.length_take] at counted
  simp only [Comment.offset, lineColumn] at line ⊢
  omega

/-- The texts of a comment that is not normalised are parts of the text. -/
theorem texts_isInfix (member : c ∈ (ofText false content).comments) :
    c.text <:+: content ∧ c.fullText <:+: content := by
  obtain ⟨before, s, l, after, kind, text, split, reads, body, rfl⟩ := exists_commentAt member
  have whole : l.bytes <:+: content :=
    ⟨before, after, by rw [split, ← reads.bytes_append, List.append_assoc]⟩
  have inside : text <:+: l.bytes := by
    cases l with
    | lineComment =>
      cases body
      exact (List.suffix_append _ _).isInfix
    | blockComment =>
      cases body
      exact ⟨_, _, rfl⟩
    | quoted | raw | openBrace | closeBrace | other => cases body
  exact ⟨inside.trans whole, whole⟩

end Scan

end Marginalia
