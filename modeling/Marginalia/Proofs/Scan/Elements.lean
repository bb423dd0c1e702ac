import Marginalia.Proofs.Scan.Place

/-!
# The lexical grammar of a source text

A source text is a sequence of lexical elements: comments, literals in quotes,
literals in backticks, curly braces, and single bytes of anything else.  Each
element carries the proof that it is well formed, so a text that can be written
as elements needs only one more condition: no element may be read as part of the
one before it.  A line comment has to be followed by a newline or by the end of
the text, and a slash by something that does not make a comment of it.

The elements are a description of texts that owes nothing to how a scan works.
The theorem of this module, `scan_text_of_wellPlaced`, says that a scan of such a
text finds the comments and the braces that were put in, where they were put in,
and nothing else.
-/

namespace Marginalia

set_option autoImplicit false

open Lexeme

/-! ## Elements -/

/-- What a literal in quotes consists of. -/
inductive LiteralPart (quote : UInt8) where
  /-- a byte that stands for itself -/
  | plain (b : UInt8) (notQuote : b ≠ quote) (notBackslash : b ≠ backslash)
      (notNewline : b ≠ Bytes.newline)
  /-- a backslash and the byte it goes with -/
  | escape (b : UInt8) (notNewline : b ≠ Bytes.newline)

/-- A part of a literal as it is written. -/
def LiteralPart.bytes {quote : UInt8} : LiteralPart quote → Bytes
  | .plain b _ _ _ => [b]
  | .escape b _ => [backslash, b]

/-- A lexical element of a source text. -/
inductive Element where
  /-- two slashes and a body up to the end of the line -/
  | lineComment (body : Bytes) (oneLine : Bytes.newline ∉ body)
  /-- a body between delimiters -/
  | blockComment (body : Bytes) (noEnd : ¬ [star, Bytes.slash] <:+: body)
  /-- a literal in double quotes or apostrophes -/
  | quoted (quote : UInt8) (isQuote : quote = doubleQuote ∨ quote = apostrophe)
      (parts : List (LiteralPart quote))
  /-- a literal in backticks -/
  | raw (body : Bytes) (noEnd : backtick ∉ body)
  | openBrace
  | closeBrace
  /-- any byte that is neither a quote of some kind nor a brace -/
  | other (b : UInt8) (ordinary : b ∉ [doubleQuote, apostrophe, backtick, leftBrace, rightBrace])

namespace Element

/-- An element as it is written. -/
def bytes : Element → Bytes
  | .lineComment body _ => [Bytes.slash, Bytes.slash] ++ body
  | .blockComment body _ => [Bytes.slash, star] ++ body ++ [star, Bytes.slash]
  | .quoted quote _ parts => [quote] ++ parts.flatMap LiteralPart.bytes ++ [quote]
  | .raw body _ => [backtick] ++ body ++ [backtick]
  | .openBrace => [leftBrace]
  | .closeBrace => [rightBrace]
  | .other b _ => [b]

/-- The text that elements make up. -/
def text (es : List Element) : Bytes := es.flatMap bytes

/-- May a text follow an element without changing where the element ends? -/
def Admits (rest : Bytes) : Element → Prop
  | .lineComment _ _ => ∀ b ∈ rest.head?, b = Bytes.newline
  | .other b _ => b = Bytes.slash → ∀ c ∈ rest.head?, c ≠ Bytes.slash ∧ c ≠ star
  | _ => True

instance (rest : Bytes) : (e : Element) → Decidable (e.Admits rest)
  | .lineComment _ _ => inferInstanceAs (Decidable (∀ b ∈ rest.head?, b = Bytes.newline))
  | .other b _ =>
    inferInstanceAs
      (Decidable (b = Bytes.slash → ∀ c ∈ rest.head?, c ≠ Bytes.slash ∧ c ≠ star))
  | .blockComment _ _ | .quoted _ _ _ | .raw _ _ | .openBrace | .closeBrace =>
    inferInstanceAs (Decidable True)

/-- Every element may be followed by what follows it. -/
def WellPlaced : List Element → Prop
  | [] => True
  | e :: es => e.Admits (text es) ∧ WellPlaced es

instance : (es : List Element) → Decidable (WellPlaced es)
  | [] => inferInstanceAs (Decidable True)
  | e :: es =>
    have : Decidable (WellPlaced es) := instDecidableWellPlaced es
    inferInstanceAs (Decidable (e.Admits (text es) ∧ WellPlaced es))

/-! ## What a scan should find -/

/-- The kind of a comment, the bytes it covers, its body and its full text. -/
structure CommentFacts where
  kind : CommentKind
  start : Int
  stop : Int
  text : Bytes
  fullText : Bytes
  deriving DecidableEq, Repr

/-- The comment that an element at an offset is. -/
def comment? (offset : Nat) : Element → Option CommentFacts
  | .lineComment body _ =>
    some ⟨.line, offset, offset + (2 + body.length : Nat), body, [Bytes.slash, Bytes.slash] ++ body⟩
  | .blockComment body _ =>
    some ⟨.block, offset, offset + (2 + body.length + 2 : Nat), body,
      [Bytes.slash, star] ++ body ++ [star, Bytes.slash]⟩
  | _ => none

/-- The brace that an element at an offset is. -/
def brace? (offset : Nat) : Element → Option Brace
  | .openBrace => some ⟨.opening, offset⟩
  | .closeBrace => some ⟨.closing, offset⟩
  | _ => none

/-- What the elements from an offset on are, of those that are something. -/
def collect {α : Type} (pick : Nat → Element → Option α) (offset : Nat) : List Element → List α
  | [] => []
  | e :: es => (pick offset e).toList ++ collect pick (offset + e.bytes.length) es

end Element

/-- What there is to compare of a comment that a scan found. -/
def Comment.facts (c : Comment) : Element.CommentFacts where
  kind := c.kind
  start := c.start
  stop := c.stop
  text := c.text
  fullText := c.fullText

/-! ## Reading one element -/

namespace Lexeme

theorem readQuoted_parts (quote : UInt8) (isQuote : quote = doubleQuote ∨ quote = apostrophe)
    (parts : List (LiteralPart quote)) (rest : Bytes) :
    readQuoted quote (parts.flatMap LiteralPart.bytes ++ quote :: rest)
      = (parts.flatMap LiteralPart.bytes ++ [quote], .quote, rest) := by
  have other : backslash ≠ quote := by
    rcases isQuote with rfl | rfl <;> decide
  have noBreak : backslash ≠ Bytes.newline := by decide
  induction parts with
  | nil =>
    rw [List.flatMap_nil, List.nil_append, readQuoted.eq_def]
    simp
  | cons part parts ih =>
    cases part with
    | plain b notQuote notBackslash notNewline =>
      rw [readQuoted.eq_def]
      simp [LiteralPart.bytes, ih, notQuote, notBackslash, notNewline]
    | escape b notNewline =>
      rw [readQuoted.eq_def]
      simp [LiteralPart.bytes, ih, other, noBreak, notNewline]

end Lexeme

namespace Element

/-- The lexeme that an element is read as. -/
def lexeme : Element → Lexeme
  | .lineComment body _ => .lineComment body
  | .blockComment body _ => .blockComment body true
  | .quoted quote _ parts => .quoted quote (parts.flatMap LiteralPart.bytes ++ [quote])
  | .raw body _ => .raw (body ++ [backtick])
  | .openBrace => .openBrace
  | .closeBrace => .closeBrace
  | .other b _ => .other b

@[simp] theorem bytes_lexeme (e : Element) : e.lexeme.bytes = e.bytes := by
  cases e <;> simp [lexeme, Lexeme.bytes, bytes]

/-- **One step of reading**: where an element may be followed by `rest`, the first lexeme is that
element and reading goes on with `rest`. -/
theorem ofText_bytes_append {e : Element} {rest : Bytes} (admits : e.Admits rest) :
    Lexeme.ofText (e.bytes ++ rest) = e.lexeme :: Lexeme.ofText rest := by
  cases e with
  | lineComment body oneLine => exact (Reads.lineComment oneLine admits).ofText_eq
  | blockComment body noEnd =>
    simp only [bytes, List.append_assoc, List.cons_append, List.nil_append]
    exact (Reads.closedBlock rest noEnd).ofText_eq
  | quoted quote isQuote parts =>
    have literal := readQuoted_parts quote isQuote parts rest
    have rule : Reads (quote :: (parts.flatMap LiteralPart.bytes ++ quote :: rest))
        (.quoted quote (parts.flatMap LiteralPart.bytes ++ [quote])) rest := by
      rcases isQuote with rfl | rfl
      · have rule := Reads.doubleQuoted (parts.flatMap LiteralPart.bytes ++ doubleQuote :: rest)
        rwa [literal] at rule
      · have rule := Reads.singleQuoted
          (s := parts.flatMap LiteralPart.bytes ++ apostrophe :: rest) (by simp [literal])
        rwa [literal] at rule
    simp only [bytes, List.append_assoc, List.cons_append, List.nil_append]
    exact rule.ofText_eq
  | raw body noEnd =>
    simp only [bytes, List.append_assoc, List.cons_append, List.nil_append]
    exact (Reads.closedRaw rest noEnd).ofText_eq
  | openBrace => exact (Reads.openBrace rest).ofText_eq
  | closeBrace => exact (Reads.closeBrace rest).ofText_eq
  | other b ordinary => exact (Reads.other ordinary admits).ofText_eq

/-- The text of well placed elements is read as these elements. -/
theorem ofText_text {es : List Element} (placed : WellPlaced es) :
    Lexeme.ofText (text es) = es.map lexeme := by
  induction es with
  | nil => exact Lexeme.ofText.eq_1
  | cons e es ih =>
    obtain ⟨admits, placed⟩ := placed
    calc Lexeme.ofText (text (e :: es))
        = Lexeme.ofText (e.bytes ++ text es) := rfl
      _ = e.lexeme :: Lexeme.ofText (text es) := ofText_bytes_append admits
      _ = (e :: es).map lexeme := by rw [ih placed, List.map_cons]

/-- What is picked out of located lexemes is picked out of the elements. -/
theorem filterMap_located {α : Type} (pick : Nat × Lexeme → Option α) (offset : Nat)
    (es : List Element) :
    (located offset (es.map lexeme)).filterMap pick
      = collect (fun o e => pick (o, e.lexeme)) offset es := by
  induction es generalizing offset with
  | nil => rfl
  | cons e es ih =>
    rw [List.map_cons, located, List.filterMap_cons, collect, ← ih, bytes_lexeme]
    cases pick (offset, e.lexeme) <;> rfl

theorem collect_none {α : Type} (offset : Nat) (es : List Element) :
    collect (fun _ _ => (none : Option α)) offset es = [] := by
  induction es generalizing offset with
  | nil => rfl
  | cons e es ih => exact ih _

/-! ## Scanning elements -/

theorem facts_comment? (index : List Nat) (offset : Nat) (e : Element) :
    (Scan.comment? id index (offset, e.lexeme)).map Comment.facts = e.comment? offset := by
  cases e with
  | lineComment body _ =>
    simp [Scan.comment?, Scan.commentBody?, Comment.facts, comment?, lexeme, Lexeme.bytes]
    omega
  | blockComment body _ =>
    simp [Scan.comment?, Scan.commentBody?, Comment.facts, comment?, lexeme, Lexeme.bytes]
    omega
  | _ => rfl

theorem brace?_lexeme (offset : Nat) (e : Element) :
    Scan.brace? (offset, e.lexeme) = e.brace? offset := by
  cases e <;> rfl

theorem diagnostic?_lexeme (index : List Nat) (offset : Nat) (e : Element) :
    Scan.diagnostic? index (offset, e.lexeme) = none := by
  cases e <;> rfl

end Element

open Element in
/-- **A scan finds what was put in.**  The text of well placed elements, if it has less than 2^32
bytes, is scanned to exactly the comments and braces among the elements, in order and with their
places; spans do not wrap, and nothing is reported. -/
theorem scan_text_of_wellPlaced (file : Nat) (es : List Element) (placed : WellPlaced es)
    (short : (text es).length < UInt32.size) :
    (Scan.ofText false (text es)).comments.map Comment.facts = collect comment? 0 es ∧
    (∀ c ∈ (Scan.ofText false (text es)).comments,
      ((c.span file).start.toNat : Int) = c.start ∧ ((c.span file).stop.toNat : Int) = c.stop) ∧
    (Scan.ofText false (text es)).braces = collect brace? 0 es ∧
    (Scan.ofText false (text es)).diagnostics = [] := by
  have lexed := ofText_text placed
  refine ⟨?_, fun c found => Scan.span_of_short short file found, ?_, ?_⟩
  · simp only [Scan.ofText, lexed, List.map_filterMap, Bool.false_eq_true, if_false]
    rw [filterMap_located]
    simp only [facts_comment?]
  · simp only [Scan.ofText, lexed]
    rw [filterMap_located]
    simp only [brace?_lexeme]
  · simp only [Scan.ofText, lexed]
    rw [filterMap_located]
    simp only [diagnostic?_lexeme]
    exact collect_none 0 es

namespace Element

/-- Every kind of element, with delimiters of the other kinds inside: `"//\"{" {`, a backtick literal
of two lines that holds `/*` and `'}`, the literal `'\''`, a division, `/* "{**/}` and a line comment
with an apostrophe. -/
def mixed : List Element :=
  [.quoted doubleQuote (.inl rfl)
    [.plain 47 (by decide) (by decide) (by decide), .plain 47 (by decide) (by decide) (by decide),
      .escape doubleQuote (by decide), .plain leftBrace (by decide) (by decide) (by decide)],
   .other Bytes.space (by decide),
   .openBrace,
   .raw [47, star, Bytes.newline, apostrophe, rightBrace] (by decide),
   .quoted apostrophe (.inr rfl) [.escape apostrophe (by decide)],
   .other Bytes.slash (by decide),
   .other 120 (by decide),
   .blockComment [Bytes.space, doubleQuote, leftBrace, star] (by decide),
   .closeBrace,
   .lineComment (utf8 " it's") (by decide),
   .other Bytes.newline (by decide)]

theorem scan_text_mixed :
    WellPlaced mixed ∧ (text mixed).length < UInt32.size ∧
    (Scan.ofText false (text mixed)).comments.map Comment.facts
      = [⟨.block, 22, 30, utf8 " \"\x7b*", utf8 "/* \"\x7b**/"⟩,
         ⟨.line, 31, 38, utf8 " it's", utf8 "// it's"⟩] ∧
    (Scan.ofText false (text mixed)).braces = [⟨.opening, 8⟩, ⟨.closing, 30⟩] ∧
    (Scan.ofText false (text mixed)).diagnostics = [] := by
  have placed : WellPlaced mixed := by decide +kernel
  have short : (text mixed).length < UInt32.size := by decide +kernel
  obtain ⟨comments, -, braces, quiet⟩ := scan_text_of_wellPlaced 0 mixed placed short
  exact ⟨placed, short, comments.trans (by decide +kernel), braces.trans (by decide +kernel), quiet⟩

end Element

end Marginalia
