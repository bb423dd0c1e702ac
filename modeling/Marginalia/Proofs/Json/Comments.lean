import Marginalia.CommandLine.Run
import Marginalia.Json.Record
import Marginalia.Proofs.Json.Value

/-!
# Comments are read back

Comments that are written as Json are read back as they are (`commentsOfText_document`),
so making notes from what was written gives the notes of the comments.  The key of a
field is read as the field although keys are told apart without regard to case, since
no two fields have the same letters (`fieldOf?_utf8`); a comment without an owner has
no field for it and keeps the owner of the blank comment, which is none.
-/

namespace Marginalia

set_option autoImplicit false

open CommandLine

/-! ## Numbers -/

theorem Json.foldl_toDigits (n : Nat) :
    (Nat.toDigits 10 n).foldl (fun n c => n * 10 + (c.toNat - 48)) 0 = n := by
  have value := Nat.ofDigitChars_ten_toDigits (n := n)
  simpa [Nat.ofDigitChars, Nat.mul_comm] using value

/-- Is a number one of 64 bits? -/
def Word64 (n : Int) : Prop := -0x8000000000000000 ≤ n ∧ n < 0x8000000000000000

theorem Json.int64?_toDigits {n : Nat} (small : Word64 n) :
    Json.int64? (Nat.toDigits 10 n) = some (n : Int) := by
  have nonempty : Nat.toDigits 10 n ≠ [] := Nat.toDigits_ne_nil
  have digits : (Nat.toDigits 10 n).all Json.isDigit = true :=
    List.all_eq_true.2 fun c member => Json.isDigit_of_mem_toDigits member
  rw [Json.int64?]
  · simp only [List.isEmpty_eq_false_iff.2 nonempty, digits, Json.foldl_toDigits, Bool.not_true,
      Bool.or_self, Bool.false_eq_true, if_false]
    exact if_pos ⟨small.1, small.2⟩
  · intro tail shape
    rw [shape] at digits
    cases digits

theorem Json.int64?_minus {n : Nat} (small : Word64 (-n)) :
    Json.int64? ('-' :: Nat.toDigits 10 n) = some (-n : Int) := by
  have nonempty : Nat.toDigits 10 n ≠ [] := Nat.toDigits_ne_nil
  have digits : (Nat.toDigits 10 n).all Json.isDigit = true :=
    List.all_eq_true.2 fun c member => Json.isDigit_of_mem_toDigits member
  simp only [Json.int64?, List.isEmpty_eq_false_iff.2 nonempty, digits, Json.foldl_toDigits,
    Bool.not_true, Bool.or_self, Bool.false_eq_true, if_false, if_true]
  exact if_pos ⟨small.1, small.2⟩

theorem Json.int64?_literalOf {n : Int} (small : Word64 n) :
    Json.int64? (Json.literalOf n) = some n := by
  cases n with
  | ofNat n => exact Json.int64?_toDigits small
  | negSucc n => exact Json.int64?_minus small

/-! ## Fields -/

/-- The name of a field is read as the field. -/
theorem Comment.fieldOf?_utf8 :
    ∀ name ∈ Comment.fieldNames, Comment.fieldOf? (utf8 name) = some name := by
  have folded : ∀ name, foldedName (utf8 name) = name.toList.map fun c => Unicode.foldKey c.toNat := by
    intro name
    exact congrArg _ (Utf8.chars_ofChars name.toList)
  simp only [Comment.fieldOf?, folded]
  decide

namespace Comment

/-- A comment whose texts are properly encoded and whose numbers have 64 bits. -/
structure Portable (c : Comment) : Prop where
  text : Utf8.valid c.text = true
  fullText : Utf8.valid c.fullText = true
  owner : ∀ name ∈ c.owner, Utf8.valid name = true
  start : Word64 c.start
  stop : Word64 c.stop
  line : Word64 c.line
  column : Word64 c.column

/-- **A comment is what its fields say**: setting each of them in the blank comment gives it back. -/
theorem ofJson_toJson {c : Comment} (portable : c.Portable) : ofJson c.toJson = some c := by
  have field := fieldOf?_utf8
  simp only [fieldNames, List.forall_mem_cons] at field
  obtain ⟨kind, text, fullText, start, stop, line, column, owner, -⟩ := field
  have first := Json.int64?_literalOf portable.start
  have last := Json.int64?_literalOf portable.stop
  have row := Json.int64?_literalOf portable.line
  have place := Json.int64?_literalOf portable.column
  obtain ⟨_, _, _, _, _, _, _, _ | name⟩ := c
  · simp [toJson, Json.ofMembers, ofJson, setField, Json.setText, Json.setInt, Json.int_eq_number,
      blank, kind, text, fullText, start, stop, line, column, first, last, row, place]
  · simp [toJson, Json.ofMembers, ofJson, setField, Json.setText, Json.setInt, Json.int_eq_number,
      blank, kind, text, fullText, start, stop, line, column, owner, first, last, row, place]

theorem portable_toJson {c : Comment} (portable : c.Portable) : Json.Portable c.toJson := by
  have kind : Utf8.valid c.kind.name = true := by
    cases c.kind <;> exact Utf8.valid_ofChars _
  refine Json.portable_ofMembers ?_
  simp only [List.forall_mem_cons, Option.mem_some_iff, forall_eq', List.not_mem_nil,
    IsEmpty.forall_iff, implies_true, and_true]
  refine ⟨.str kind, .str portable.text, .str portable.fullText, .int _, .int _, .int _, .int _, ?_⟩
  intro v present
  obtain ⟨name, owned, rfl⟩ := Option.map_eq_some_iff.1 present
  exact .str (portable.owner name owned)

/-! ## Lists of comments -/

/-- A list of comments in Json, which is null if there is no list. -/
def listJson : Option (List Comment) → Json
  | none => .null
  | some cs => .array (cs.map toJson)

theorem portable_listJson {list : Option (List Comment)}
    (portable : ∀ c ∈ list.getD [], c.Portable) : Json.Portable (listJson list) := by
  cases list with
  | none => exact .null
  | some cs =>
    refine .array fun v member => ?_
    obtain ⟨c, written, rfl⟩ := List.mem_map.1 member
    exact portable_toJson (portable c written)

theorem commentsOfJson_listJson {list : Option (List Comment)}
    (portable : ∀ c ∈ list.getD [], c.Portable) :
    commentsOfJson (listJson list) = some (list.getD []) := by
  cases list with
  | none => rfl
  | some cs =>
    rw [listJson, commentsOfJson, Option.getD_some]
    rw [Option.getD_some] at portable
    induction cs with
    | nil => rfl
    | cons c cs ih =>
      rw [List.forall_mem_cons] at portable
      rw [List.map_cons, List.mapM_cons, ofJson_toJson portable.1, ih portable.2]
      rfl

/-- What the command that makes notes answers if the comments are known. -/
def foldReply (w : World) (g : Given) (cs : List Comment) : Reply where
  failed := (g.bool? "strict").getD false &&
    (Notes.ofComments cs).diagnostics.any fun d => Severity.warn.rank ≤ d.severity.rank
  stdout := (Notes.ofComments cs).toJson.document
  disk := w.disk

/-- **Comments that are written are read back**, and the notes made from what was written are the notes
of the comments. -/
theorem commentsOfText_document (list : Option (List Comment))
    (portable : ∀ c ∈ list.getD [], c.Portable) :
    commentsOfText (listJson list).document = some (list.getD []) ∧
      ∀ (w : World) (g : Given) (target : Bytes),
        commentsText w target = .ok (listJson list).document →
          runFold w g target = .ok (foldReply w g (list.getD [])) := by
  have read : commentsOfText (listJson list).document = some (list.getD []) := by
    rw [commentsOfText, Json.first?_document (portable_listJson portable)]
    exact commentsOfJson_listJson portable
  refine ⟨read, ?_⟩
  intro w g target given
  simp only [runFold, given, bind, Except.bind, read]
  rfl

/-- Two comments with the characters that are not written as themselves, and with the least and the
greatest number; one has an owner. -/
def escapedComments : List Comment :=
  [{ kind := .line
     text := utf8 "\"quoted\" back\\slash \u0001\u0008\u000c\u007f\n\r\t <b> & \u2028\u2029 😀"
     fullText := utf8 "//++ </script>"
     start := -0x8000000000000000
     stop := 0x7FFFFFFFFFFFFFFF
     line := 1
     column := 1
     owner := some (utf8 "größe") },
   { kind := .block, text := [], fullText := utf8 "/**/", start := 0, stop := 4, line := 2, column := 1 }]

theorem commentsOfText_document_escapedComments :
    (∀ c ∈ escapedComments, c.Portable) ∧
      commentsOfText (listJson (some escapedComments)).document = some escapedComments ∧
      runFold { stdin := (listJson (some escapedComments)).document } {} (utf8 "-")
        = .ok (foldReply { stdin := (listJson (some escapedComments)).document } {} escapedComments) := by
  have proper : ∀ s : String, Utf8.valid (utf8 s) = true := fun s => Utf8.valid_ofChars s.toList
  have portable : ∀ c ∈ escapedComments, c.Portable := by
    intro c member
    simp only [escapedComments, List.mem_cons, List.not_mem_nil, or_false] at member
    rcases member with rfl | rfl
    · exact ⟨proper _, proper _, by simp [proper], by simp [Word64], by simp [Word64],
        by simp [Word64], by simp [Word64]⟩
    · exact ⟨proper "", proper _, by simp, by simp [Word64], by simp [Word64], by simp [Word64],
        by simp [Word64]⟩
  have same := commentsOfText_document (some escapedComments) portable
  exact ⟨portable, same.1, same.2 _ {} _ (if_pos rfl)⟩

end Comment

end Marginalia
