import Marginalia.Marker.Basic
import Marginalia.Proofs.Scan.Faithful
import Marginalia.Proofs.Text.Affixes
import Marginalia.Proofs.Text.Space

/-!
# The signs at the beginning of a comment

A comment is taken apart twice: a scan cuts its body out between the delimiters, and a
marker is read off the full text, which is trimmed first and stripped of its delimiters
then.  Both agree.  A comment opens with a marker exactly when its body starts with one
of the three signs, and the marker carries what follows the sign, whether or not the
comment is closed (`Scan.marker_of_comment`).

Trimming the full text takes nothing from its beginning, which is a delimiter, and at
its end only what would be trimmed from the body later.  A delimiter is taken away at
the end only if the comment was closed with it, since the body of a comment has no
closing delimiter in it.
-/

namespace Marginalia

set_option autoImplicit false

namespace Marker

/-! ## Signs -/

/-- The signs of markers. -/
inductive Sign where
  | description
  | examples
  | debt
  deriving DecidableEq, Repr

namespace Sign

/-- The two characters a sign is written with. -/
def chars : Sign → List Char
  | .description => ['+', '+']
  | .examples => ['?', '?']
  | .debt => ['-', '-']

/-- The bytes of a sign. -/
def bytes (sign : Sign) : Bytes := Utf8.ofChars sign.chars

/-- What a comment of some kind says with a sign and the text behind it. -/
def Carries (kind : CommentKind) (body : Bytes) : Sign → Marker → Prop
  | .description, m => m = .description body.trim
  | .examples, m =>
    match kind with
    | .line => m = .example_ [ExampleText.ofText body.trim]
    | .block => m = .example_ ((Bytes.filledLines body).map ExampleText.ofText)
  | .debt, m => ∃ reason, m = .techDebt reason ∧ reason.trim = body.trim

/-- What a block comment says with a sign and a stripped body. -/
def ofBody (body : Bytes) : Sign → Marker
  | .description => .description body
  | .examples => .example_ (blockExamples body)
  | .debt => .techDebt body

theorem ne_plain_of_carries {kind : CommentKind} {body : Bytes} {sign : Sign} {m : Marker}
    (carries : sign.Carries kind body m) : m ≠ .plain := by
  rintro rfl
  cases sign with
  | description => cases carries
  | examples => cases kind <;> cases carries
  | debt =>
    obtain ⟨_, impossible, -⟩ := carries
    cases impossible

theorem solid_chars (sign : Sign) : ∀ c ∈ sign.chars, isSpace c = false := by
  cases sign <;> simp [chars, isSpace]

end Sign

/-! ## Delimiters -/

/-- The characters that open a comment. -/
def opening : CommentKind → List Char
  | .line => ['/', '/']
  | .block => ['/', '*']

/-- The characters that close a block comment. -/
def closing : List Char := ['*', '/']

theorem solid_opening (kind : CommentKind) : ∀ c ∈ opening kind, isSpace c = false := by
  cases kind <;> simp [opening, isSpace]

theorem opening_ne_nil (kind : CommentKind) : opening kind ≠ [] := by
  cases kind <;> decide

theorem solid_closing : ∀ c ∈ closing, isSpace c = false := by
  simp [closing, isSpace]

theorem blockClose_eq : blockClose = Utf8.ofChars closing := by decide

/-- The beginning of a comment of some kind with a sign. -/
def opener (kind : CommentKind) (sign : Sign) : Bytes := Utf8.ofChars (opening kind ++ sign.chars)

theorem opener_eq (kind : CommentKind) (sign : Sign) :
    opener kind sign = Utf8.ofChars (opening kind) ++ sign.bytes :=
  List.flatMap_append

theorem markers_eq :
    (lineDescription = opener .line .description ∧ blockDescription = opener .block .description) ∧
    (lineExample = opener .line .examples ∧ blockExample = opener .block .examples) ∧
    (lineDebt = opener .line .debt ∧ blockDebt = opener .block .debt) := by
  decide

/-- How markers are written, byte by byte. -/
theorem opener_bytes :
    (opener .line .description = [47, 47, 43, 43] ∧ opener .block .description = [47, 42, 43, 43]) ∧
    (opener .line .examples = [47, 47, 63, 63] ∧ opener .block .examples = [47, 42, 63, 63]) ∧
    (opener .line .debt = [47, 47, 45, 45] ∧ opener .block .debt = [47, 42, 45, 45]) := by
  decide

theorem opening_bytes :
    Utf8.ofChars (opening .line) = [47, 47] ∧ Utf8.ofChars (opening .block) = [47, 42] := by
  decide

/-- A comment of one kind does not begin like one of the other kind. -/
theorem not_opener_prefix {kind other : CommentKind} (differ : other ≠ kind) (sign : Sign) (s : Bytes) :
    ¬ opener other sign <+: Utf8.ofChars (opening kind) ++ s := by
  cases other <;> cases kind <;> cases sign <;> simp_all [opener_bytes, opening_bytes]

theorem solid_opener (kind : CommentKind) (sign : Sign) :
    ∀ c ∈ opening kind ++ sign.chars, isSpace c = false := by
  intro c member
  rcases List.mem_append.1 member with early | late
  · exact solid_opening kind c early
  · exact sign.solid_chars c late

theorem opener_ne_nil (kind : CommentKind) (sign : Sign) : opening kind ++ sign.chars ≠ [] := by
  cases kind <;> simp [opening]

/-! ## Reading trimmed texts -/

section Reading

variable {full m body : Bytes} {sign : Sign}

/-- What a line comment with a sign says. -/
theorem carries_of_line (trimmed : full.trim = opener .line sign ++ m) :
    sign.Carries .line m (ofText full) := by
  simp only [ofText, trimmed]
  cases sign <;> simp [markers_eq, opener_bytes, Bytes.after?, Bytes.startsWith, Sign.Carries]

theorem ofText_block (trimmed : full.trim = opener .block sign ++ m) :
    ofText full = sign.ofBody (blockBody full.trim) := by
  simp only [ofText, trimmed]
  cases sign <;> simp [markers_eq, opener_bytes, Bytes.after?, Bytes.startsWith, Sign.ofBody]

/-- What a block comment with a sign says, once it is stripped. -/
theorem carries_of_block (trimmed : full.trim = opener .block sign ++ m)
    (stripped : blockBody full.trim = body.trim) : sign.Carries .block body (ofText full) := by
  rw [ofText_block trimmed, stripped]
  cases sign with
  | description => rfl
  | examples =>
    have lines := Bytes.filledLines_trim body
    exact congrArg (fun lines => Marker.example_ (lines.map ExampleText.ofText)) lines
  | debt => exact ⟨_, rfl, Bytes.trim_trim body⟩

/-- Without a sign behind its opening delimiter a comment is plain. -/
theorem ofText_plain {kind : CommentKind} (trimmed : full.trim = Utf8.ofChars (opening kind) ++ m)
    (unsigned : ∀ sign : Sign, ¬ sign.bytes <+: m) : ofText full = .plain := by
  have apart (k : CommentKind) (sign : Sign) : ¬ opener k sign <+: full.trim := by
    rw [trimmed]
    by_cases same : k = kind
    · rw [same, opener_eq, List.prefix_append_right_inj]
      exact unsigned sign
    · exact not_opener_prefix same sign m
  simp only [ofText, markers_eq, Bytes.after?_eq_none (apart _ _), Bytes.startsWith_eq_false (apart _ _)]
  rfl

end Reading

/-! ## Stripping block comments -/

theorem withoutOpener_append (sign : Sign) (s : Bytes) : withoutOpener (opener .block sign ++ s) = s := by
  cases sign <;> simp [withoutOpener, markers_eq, opener_bytes, Bytes.after?]

theorem blockBody_closed (sign : Sign) (body : Bytes) :
    blockBody (opener .block sign ++ (body ++ Utf8.ofChars closing)) = body.trim := by
  have trimmed := Bytes.trim_enclosed (solid_opener .block sign) (opener_ne_nil .block sign)
    solid_closing (by decide) body
  rw [blockBody, opener, trimmed, ← opener, withoutOpener_append, blockClose_eq,
    Bytes.dropSuffix_append]

/-- What is not closed has no closing delimiter at its end that could be taken away. -/
theorem blockBody_open (sign : Sign) {body : Bytes} (noEnd : ¬ Utf8.ofChars closing <:+: body) :
    blockBody (opener .block sign ++ body) = body.trim := by
  obtain ⟨m, z, blank, rfl, trimmed⟩ := Bytes.trim_solid_append (solid_opener .block sign)
    (opener_ne_nil .block sign) body
  have noEnd' : ¬ blockClose <:+ m := by
    intro ends
    rw [blockClose_eq] at ends
    exact noEnd (ends.isInfix.trans (List.prefix_append m z).isInfix)
  rw [blockBody, opener, trimmed, ← opener, withoutOpener_append, Bytes.dropSuffix_of_not_suffix noEnd',
    Bytes.trim_append_blank m blank]

end Marker

/-! ## Comments -/

namespace Comment.Written

open Marker

variable {content body : Bytes} {c : Comment} {sign : Sign}

/-- What is taken from the end of a line comment would be trimmed from its body anyway. -/
theorem carries_of_trim_eq {m : Bytes} {marker : Marker} (carries : sign.Carries .line m marker)
    (same : m.trim = body.trim) : sign.Carries .line body marker := by
  cases sign with
  | description => exact carries.trans (congrArg Marker.description same)
  | examples => exact carries.trans (congrArg (fun t => Marker.example_ [ExampleText.ofText t]) same)
  | debt =>
    obtain ⟨reason, read, trimmed⟩ := carries
    exact ⟨reason, read, trimmed.trans same⟩

/-- A comment with a sign carries what follows the sign. -/
theorem carries (written : c.Written content) (text : c.text = sign.bytes ++ body) :
    sign.Carries c.kind body (Marker.ofText c.fullText) := by
  cases written with
  | line isLine delimited oneLine ends =>
    have full : c.fullText = opener .line sign ++ body := by
      rw [delimited, text, opener_eq, opening_bytes.1, List.append_assoc]
    obtain ⟨m, z, blank, rfl, trimmed⟩ := Bytes.trim_solid_append (solid_opener .line sign)
      (opener_ne_nil .line sign) body
    rw [isLine]
    apply carries_of_trim_eq (m := m)
    · apply carries_of_line
      rw [full]
      exact trimmed
    · exact (Bytes.trim_append_blank m blank).symm
  | closed isBlock delimited noEnd =>
    have full : c.fullText = opener .block sign ++ (body ++ Utf8.ofChars closing) := by
      rw [delimited, text, opener_eq, opening_bytes.2]
      simp only [List.append_assoc]
      rfl
    have trimmed : c.fullText.trim = opener .block sign ++ (body ++ Utf8.ofChars closing) := by
      rw [full]
      exact Bytes.trim_enclosed (solid_opener .block sign) (opener_ne_nil .block sign) solid_closing
        (by decide) body
    rw [isBlock]
    apply carries_of_block trimmed
    rw [trimmed, blockBody_closed]
  | unclosed isOpen noEnd ends =>
    have full : c.fullText = opener .block sign ++ body := by
      rw [isOpen.2, text, opener_eq, opening_bytes.2, List.append_assoc]
    obtain ⟨m, z, blank, rfl, trimmed⟩ := Bytes.trim_solid_append (solid_opener .block sign)
      (opener_ne_nil .block sign) body
    have noEnd' : ¬ Utf8.ofChars closing <:+: m := by
      intro inside
      apply noEnd
      rw [text]
      exact inside.trans ⟨sign.bytes, z, by simp⟩
    have trimmed' : c.fullText.trim = opener .block sign ++ m := by
      rw [full]
      exact trimmed
    rw [isOpen.1]
    apply carries_of_block trimmed'
    rw [trimmed', blockBody_open sign noEnd', Bytes.trim_append_blank m blank]

/-- Of a comment without a closing delimiter nothing but white space is trimmed. -/
theorem plain_of_open (kind : CommentKind) {full text : Bytes}
    (delimited : full = Utf8.ofChars (opening kind) ++ text)
    (unsigned : ∀ sign : Sign, ¬ sign.bytes <+: text) : Marker.ofText full = .plain := by
  obtain ⟨m, z, blank, rfl, trimmed⟩ := Bytes.trim_solid_append (solid_opening kind)
    (opening_ne_nil kind) text
  rw [← delimited] at trimmed
  refine ofText_plain trimmed fun sign starts => ?_
  exact unsigned sign (starts.trans (List.prefix_append m z))

/-- A comment without a sign is plain. -/
theorem plain (written : c.Written content) (unsigned : ∀ sign : Sign, ¬ sign.bytes <+: c.text) :
    Marker.ofText c.fullText = .plain := by
  cases written with
  | line isLine delimited oneLine ends =>
    exact plain_of_open .line (delimited.trans (congrArg (· ++ _) opening_bytes.1.symm))
      unsigned
  | closed isBlock delimited noEnd =>
    have full : c.fullText = Utf8.ofChars (opening .block) ++ (c.text ++ Utf8.ofChars closing) := by
      rw [delimited, opening_bytes.2, List.append_assoc]
      rfl
    have trimmed : c.fullText.trim
        = Utf8.ofChars (opening .block) ++ (c.text ++ Utf8.ofChars closing) := by
      rw [full]
      exact Bytes.trim_enclosed (solid_opening .block) (opening_ne_nil .block) solid_closing
        (by decide) c.text
    refine ofText_plain trimmed fun sign starts => ?_
    -- the closing delimiter cannot complete a sign
    have noStar : Lexeme.star ∉ sign.bytes := by cases sign <;> decide
    exact unsigned sign (Bytes.prefix_of_prefix_append_cons noStar starts)
  | unclosed isOpen noEnd ends =>
    exact plain_of_open .block (isOpen.2.trans (congrArg (· ++ _) opening_bytes.2.symm))
      unsigned

end Comment.Written

namespace Scan

variable {content : Bytes} {c : Comment}

/-- **The marker of a comment is the sign at the beginning of its body.**  A comment is plain exactly
when its body starts with no sign; with a sign, the marker carries the rest of the body: a description
and the reason of a note are the rest, trimmed; a line comment has one example, and a block comment one
for each line that is not blank. -/
theorem marker_of_comment (found : c ∈ (ofText false content).comments) :
    (Marker.ofText c.fullText ≠ .plain ↔ ∃ sign : Marker.Sign, sign.bytes <+: c.text) ∧
    ∀ (sign : Marker.Sign) (body : Bytes), c.text = sign.bytes ++ body →
      sign.Carries c.kind body (Marker.ofText c.fullText) := by
  have written : c.Written content := by
    obtain ⟨before, s, l, after, kind, text, split, reads, body, rfl⟩ := exists_commentAt found
    exact written_commentAt split reads body
  have carries : ∀ (sign : Marker.Sign) (body : Bytes), c.text = sign.bytes ++ body →
      sign.Carries c.kind body (Marker.ofText c.fullText) := fun _ _ text => written.carries text
  refine ⟨⟨?_, ?_⟩, carries⟩
  · intro marked
    by_contra unsigned
    exact marked (written.plain fun sign starts => unsigned ⟨sign, starts⟩)
  · rintro ⟨sign, body, text⟩
    exact Marker.Sign.ne_plain_of_carries (carries sign body text.symm)

/-- A note whose reason is white space and a stray byte, and a block of examples that is not closed and
ends like one that almost is. -/
def untidy : Bytes := utf8 "//--\t" ++ 0x85 :: utf8 " \n/*?? f(1) // 1\n\n g * "

/-- The block of examples in `untidy`. -/
def untidyBlock : Comment :=
  ⟨.block, utf8 "?? f(1) // 1\n\n g * ", utf8 "/*?? f(1) // 1\n\n g * ", 8, 29, 2, 1, none⟩

theorem marker_of_untidyBlock :
    untidyBlock ∈ (ofText false untidy).comments ∧ Marker.ofText untidyBlock.fullText =
      .example_ [⟨utf8 "f(1)", some (utf8 "1"), utf8 "f(1) // 1"⟩, ⟨utf8 "g *", none, utf8 "g *"⟩] := by
  have found : untidyBlock ∈ (ofText false untidy).comments := by decide +kernel
  refine ⟨found, ?_⟩
  have carried := (marker_of_comment found).2 .examples (utf8 " f(1) // 1\n\n g * ")
    (by decide +kernel)
  refine Eq.trans carried ?_
  decide +kernel

end Scan

end Marginalia
