import Marginalia.Text.Bytes

/-!
# Lexemes of C-family sources

To find comments one has to know where a literal hides what looks like one.  A
source text is read as a sequence of lexemes: comments, literals, curly braces,
and single bytes of anything else.  The bytes of the lexemes, put together, are
the text.

Nothing is rejected.  A block comment and a backtick literal that are not closed
reach to the end of the text.  A literal in double quotes ends at the end of its
line at the latest.  An apostrophe that is not answered on its line stands for
itself alone, because it may be a lifetime or an apostrophe in prose; only at the
end of the text does it swallow the rest.
-/

namespace Marginalia

set_option autoImplicit false

/-- A piece of a source text. -/
inductive Lexeme where
  /-- two slashes and the rest of the line -/
  | lineComment (body : Bytes)
  /-- a block comment, closed or open at the end of the text -/
  | blockComment (body : Bytes) (closed : Bool)
  /-- a quote and what belongs to its literal, the closing quote included -/
  | quoted (quote : UInt8) (tail : Bytes)
  /-- a backtick and what belongs to its literal, the closing backtick included -/
  | raw (tail : Bytes)
  | openBrace
  | closeBrace
  /-- any other byte -/
  | other (b : UInt8)
  deriving DecidableEq, Repr, Inhabited

namespace Lexeme

abbrev doubleQuote : UInt8 := 34
abbrev apostrophe : UInt8 := 39
abbrev star : UInt8 := 42
abbrev backslash : UInt8 := 92
abbrev backtick : UInt8 := 96
abbrev leftBrace : UInt8 := 123
abbrev rightBrace : UInt8 := 125

/-- The bytes a lexeme was read from. -/
def bytes : Lexeme → Bytes
  | .lineComment body => [Bytes.slash, Bytes.slash] ++ body
  | .blockComment body closed =>
    [Bytes.slash, star] ++ body ++ (if closed then [star, Bytes.slash] else [])
  | .quoted quote tail => quote :: tail
  | .raw tail => backtick :: tail
  | .openBrace => [leftBrace]
  | .closeBrace => [rightBrace]
  | .other b => [b]

/-! ## Reading one lexeme -/

/-- The rest of a line, and what follows from its newline on. -/
def readLine : Bytes → Bytes × Bytes
  | [] => ([], [])
  | b :: rest =>
    if b = Bytes.newline then ([], b :: rest)
    else (b :: (readLine rest).1, (readLine rest).2)

/-- The body of a block comment, whether it is closed, and what follows. -/
def readBlock : Bytes → Bytes × Bool × Bytes
  | [] => ([], false, [])
  | 42 :: 47 :: after => ([], true, after)
  | b :: rest => (b :: (readBlock rest).1, (readBlock rest).2)

/-- How a quoted literal ends. -/
inductive Ending where
  | quote
  | newline
  | endOfText
  deriving DecidableEq, Repr, Inhabited

/-- What belongs to a quoted literal after its opening quote, how it ends, and what follows.  A
backslash takes the next byte with it unless that is a newline. -/
def readQuoted (quote : UInt8) : Bytes → Bytes × Ending × Bytes
  | [] => ([], .endOfText, [])
  | b :: rest =>
    if b = quote then ([b], .quote, rest)
    else if b = Bytes.newline then ([], .newline, b :: rest)
    else if b = backslash then
      match rest with
      | [] => ([b], .endOfText, [])
      | c :: after =>
        if c = Bytes.newline then ([b], .newline, c :: after)
        else (b :: c :: (readQuoted quote after).1, (readQuoted quote after).2)
    else (b :: (readQuoted quote rest).1, (readQuoted quote rest).2)

/-- What belongs to a backtick literal after its opening backtick, and what follows. -/
def readRaw : Bytes → Bytes × Bytes
  | [] => ([], [])
  | b :: rest =>
    if b = backtick then ([b], rest) else (b :: (readRaw rest).1, (readRaw rest).2)

/-- The first lexeme of a text that starts with `b`, and what follows. -/
def read (b : UInt8) (rest : Bytes) : Lexeme × Bytes :=
  if b = Bytes.slash then
    match rest with
    | 47 :: body => (.lineComment (readLine body).1, (readLine body).2)
    | 42 :: body => (.blockComment (readBlock body).1 (readBlock body).2.1, (readBlock body).2.2)
    | _ => (.other b, rest)
  else if b = doubleQuote then (.quoted b (readQuoted b rest).1, (readQuoted b rest).2.2)
  else if b = apostrophe then
    match (readQuoted b rest).2.1 with
    | .newline => (.other b, rest)
    | _ => (.quoted b (readQuoted b rest).1, (readQuoted b rest).2.2)
  else if b = backtick then (.raw (readRaw rest).1, (readRaw rest).2)
  else if b = leftBrace then (.openBrace, rest)
  else if b = rightBrace then (.closeBrace, rest)
  else (.other b, rest)

/-! ## Nothing is lost -/

theorem readLine_append (s : Bytes) : (readLine s).1 ++ (readLine s).2 = s := by
  induction s with
  | nil => rfl
  | cons b rest ih =>
    rw [readLine]
    split
    · rfl
    · simp [ih]

theorem readBlock_append (s : Bytes) :
    (readBlock s).1 ++ (if (readBlock s).2.1 then [star, Bytes.slash] else []) ++ (readBlock s).2.2
      = s := by
  fun_induction readBlock s with
  | case1 => rfl
  | case2 => rfl
  | case3 b rest _ ih => simpa using ih

theorem readQuoted_append (quote : UInt8) (s : Bytes) :
    (readQuoted quote s).1 ++ (readQuoted quote s).2.2 = s := by
  fun_induction readQuoted quote s <;> simp_all

theorem readRaw_append (s : Bytes) : (readRaw s).1 ++ (readRaw s).2 = s := by
  induction s with
  | nil => rfl
  | cons b rest ih =>
    rw [readRaw]
    split
    · rfl
    · simp [ih]

/-- **Reading loses nothing**: the bytes of the lexeme and what follows are the text. -/
theorem bytes_read (b : UInt8) (rest : Bytes) :
    (read b rest).1.bytes ++ (read b rest).2 = b :: rest := by
  unfold read
  split
  · rename_i hb
    subst hb
    split
    · rename_i body
      simp [bytes, readLine_append]
    · rename_i body
      have := readBlock_append body
      simp only [bytes, List.append_assoc, List.cons_append, List.nil_append] at this ⊢
      rw [this]
    · rfl
  · split
    · simp [bytes, readQuoted_append]
    · split
      · split
        · rfl
        · simp [bytes, readQuoted_append]
      · split
        · rename_i hb
          subst hb
          simp [bytes, readRaw_append]
        · split
          · rename_i hb
            subst hb
            rfl
          · split
            · rename_i hb
              subst hb
              rfl
            · rfl

theorem bytes_ne_nil (l : Lexeme) : l.bytes ≠ [] := by cases l <;> simp [bytes]

/-- Every lexeme takes at least one byte, so reading comes to an end. -/
theorem read_length_le (b : UInt8) (rest : Bytes) : (read b rest).2.length ≤ rest.length := by
  have h := congrArg List.length (bytes_read b rest)
  have hpos := List.length_pos_iff.2 (bytes_ne_nil (read b rest).1)
  simp only [List.length_append, List.length_cons] at h
  omega

/-! ## Reading a whole text -/

def ofText : (s : Bytes) → List Lexeme
  | [] => []
  | b :: rest => (read b rest).1 :: ofText (read b rest).2
termination_by s => s.length
decreasing_by
  have := read_length_le b rest
  simp only [List.length_cons]
  omega

/-- The lexemes of a text make up the text. -/
theorem bytes_ofText (s : Bytes) : (ofText s).flatMap bytes = s := by
  fun_induction ofText s with
  | case1 => rfl
  | case2 b rest ih => rw [List.flatMap_cons, ih, bytes_read]

/-- Lexemes with the offset of their first byte. -/
def located (start : Nat) : List Lexeme → List (Nat × Lexeme)
  | [] => []
  | l :: ls => (start, l) :: located (start + l.bytes.length) ls

end Lexeme

end Marginalia
