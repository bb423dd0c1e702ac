import Marginalia.Proofs.Scan.Place

/-!
# What a newline ends

Comments to the end of the line end at a newline, and so do literals in quotes,
whether they were closed or not.  Only a block comment and a backtick literal go
on.  So a text whose last line leaves neither of them open can be scanned on its
own: what follows it is scanned as if it were a text of its own, further down
(`Scan.ofText_append_of_settled`).  No damage on one line reaches the next.

At the end of a text there may be no newline.  An apostrophe that is not answered
stands for itself if a newline follows, but takes the rest of the text with it if
none does.  Apart from what it takes, a last newline makes no difference
(`Scan.ofText_concat_newline_iff`).
-/

namespace Marginalia

set_option autoImplicit false

/-! ## Texts that end inside a lexeme -/

namespace Lexeme

/-- Is the lexeme a block comment or a backtick literal that is not closed? -/
def isOpen : Lexeme → Bool
  | .blockComment _ closed => !closed
  | .raw tail => !tail.contains backtick
  | _ => false

/-- Does reading a text end inside a block comment or a backtick literal? -/
def endsOpen (s : Bytes) : Bool := (ofText s).getLast?.any isOpen

theorem isOpen_eq_false {s : Bytes} {init : List Lexeme} {l : Lexeme}
    (settled : endsOpen s = false) (split : ofText s = init ++ [l]) : l.isOpen = false := by
  rw [endsOpen, split, List.getLast?_concat] at settled
  exact settled

/-- A lexeme that ends in a newline and is not left open is that newline. -/
theorem Reads.eq_newline {s rest : Bytes} {l : Lexeme} (reads : Reads s l rest)
    (closed : l.isOpen = false) (ends : l.bytes.getLast? = some Bytes.newline) :
    l = .other Bytes.newline := by
  have oneLine : ∀ {quote : UInt8} {tail : Bytes}, quote ≠ Bytes.newline →
      Bytes.newline ∉ tail → (quote :: tail).getLast? ≠ some Bytes.newline := by
    intro quote tail notNewline absent last
    exact List.not_mem_cons_of_ne_of_not_mem notNewline.symm absent (List.mem_of_getLast? last)
  cases reads with
  | lineComment absent _ =>
    exact absurd ends (oneLine (by decide)
      (List.not_mem_cons_of_ne_of_not_mem (by decide) absent))
  | closedBlock _ _ =>
    rw [bytes, if_pos rfl, List.getLast?_append_of_ne_nil _ (by decide)] at ends
    exact absurd ends (by decide)
  | openBlock _ => cases closed
  | doubleQuoted s =>
    exact absurd ends (oneLine (by decide) (newline_notMem_readQuoted (by decide) s))
  | singleQuoted _ =>
    exact absurd ends (oneLine (by decide) (newline_notMem_readQuoted (by decide) _))
  | strayApostrophe _ => exact absurd ends (by decide)
  | closedRaw _ _ =>
    rw [bytes, ← List.cons_append, List.getLast?_concat] at ends
    exact absurd ends (by decide)
  | openRaw absent =>
    simp only [isOpen, Bool.not_eq_false', List.contains_iff_mem] at closed
    exact absurd closed absent
  | openBrace _ => exact absurd ends (by decide)
  | closeBrace _ => exact absurd ends (by decide)
  | other _ _ =>
    cases ends
    rfl

theorem reads_newline (rest : Bytes) :
    Reads (Bytes.newline :: rest) (.other Bytes.newline) rest :=
  .other (by decide) (fun slash => absurd slash (by decide))

/-- **Lines are read one after the other.**  Where a text ends with a newline and nothing is left open,
what is appended is read as a text of its own. -/
theorem ofText_append_of_newline {s : Bytes} (ends : s.getLast? = some Bytes.newline)
    (settled : endsOpen s = false) (t : Bytes) : ofText (s ++ t) = ofText s ++ ofText t := by
  have nonempty : s ≠ [] := by
    rintro rfl
    cases ends
  obtain ⟨init, l, split, last, appended⟩ := exists_last nonempty
  have whole := bytes_ofText s
  rw [split, List.flatMap_append, List.flatMap_singleton] at whole
  have endsLast : l.bytes.getLast? = some Bytes.newline := by
    rwa [← whole, List.getLast?_append_of_ne_nil _ (bytes_ne_nil l)] at ends
  obtain rfl := last.eq_newline (isOpen_eq_false settled split) endsLast
  rw [appended, split, List.append_assoc]
  exact congrArg _ (reads_newline t).ofText_eq

end Lexeme

/-! ## Lexemes further on -/

namespace Lexeme

theorem located_append (start : Nat) (ls ms : List Lexeme) :
    located start (ls ++ ms) = located start ls ++ located (start + (ls.flatMap bytes).length) ms := by
  induction ls generalizing start with
  | nil => rfl
  | cons l ls ih =>
    rw [List.cons_append, located, located, ih, List.flatMap_cons, List.length_append,
      Nat.add_assoc, List.cons_append]

theorem located_add (start n : Nat) (ls : List Lexeme) :
    located (start + n) ls = (located start ls).map fun x => (x.1 + n, x.2) := by
  induction ls generalizing start with
  | nil => rfl
  | cons l ls ih =>
    have shift : start + n + l.bytes.length = start + l.bytes.length + n := by omega
    rw [located, located, List.map_cons, shift, ih]

/-- Every lexeme of a text starts in it. -/
theorem lt_of_mem_located {s : Bytes} {x : Nat × Lexeme} (member : x ∈ located 0 (ofText s)) :
    x.1 < s.length := by
  obtain ⟨before, b, rest, after, split, offset, -⟩ := exists_place_of_mem_located member
  rw [split, List.length_append, List.length_cons, offset]
  omega

end Lexeme

/-- A comment that stands a number of bytes and lines further on. -/
def Comment.moved (bytes lines : Nat) (c : Comment) : Comment :=
  { c with start := c.start + bytes, stop := c.stop + bytes, line := c.line + lines }

/-- A brace that stands a number of bytes further on. -/
def Brace.moved (bytes : Nat) (b : Brace) : Brace := { b with offset := b.offset + bytes }

/-- A diagnostic about a place a number of lines further on. -/
def Diagnostic.moved (lines : Nat) (d : Diagnostic) : Diagnostic := { d with line := d.line + lines }

namespace Scan

/-- What a scan finds in a text that stands a number of bytes and lines further on, at the start of a
line. -/
def moved (bytes lines : Nat) (s : Scan) : Scan where
  comments := s.comments.map (Comment.moved bytes lines)
  braces := s.braces.map (Brace.moved bytes)
  diagnostics := s.diagnostics.map (Diagnostic.moved lines)

/-- What was found in one text, and then what was found in the next. -/
def followedBy (s t : Scan) : Scan where
  comments := s.comments ++ t.comments
  braces := s.braces ++ t.braces
  diagnostics := s.diagnostics ++ t.diagnostics

/-- What a scan finds among lexemes at their offsets. -/
def ofLocated (normalize : Bool) (index : List Nat) (xs : List (Nat × Lexeme)) : Scan where
  comments := xs.filterMap (comment? (shape normalize) index)
  braces := xs.filterMap brace?
  diagnostics := xs.filterMap (diagnostic? index)

theorem ofText_eq_ofLocated (normalize : Bool) (content : Bytes) :
    ofText normalize content
      = ofLocated normalize (lineIndex content) (Lexeme.located 0 (Lexeme.ofText content)) :=
  rfl

theorem ofLocated_append (normalize : Bool) (index : List Nat) (xs ys : List (Nat × Lexeme)) :
    ofLocated normalize index (xs ++ ys)
      = (ofLocated normalize index xs).followedBy (ofLocated normalize index ys) := by
  simp only [ofLocated, followedBy, List.filterMap_append]

/-- The line index only matters for the lines and columns of the lexemes. -/
theorem ofLocated_congr {normalize : Bool} {index index' : List Nat} {xs : List (Nat × Lexeme)}
    (same : ∀ x ∈ xs, lineColumn index x.1 = lineColumn index' x.1) :
    ofLocated normalize index xs = ofLocated normalize index' xs := by
  have comments : ∀ x ∈ xs,
      comment? (shape normalize) index x = comment? (shape normalize) index' x := by
    rintro ⟨o, l⟩ member
    simp only [comment?, same _ member]
  have diagnostics : ∀ x ∈ xs, diagnostic? index x = diagnostic? index' x := by
    rintro ⟨o, l⟩ member
    cases l with
    | blockComment body closed => cases closed <;> simp only [diagnostic?, same _ member]
    | _ => rfl
  simp only [ofLocated, List.filterMap_congr comments, List.filterMap_congr diagnostics]

theorem moved_unterminated (line column : Int) (lines : Nat) :
    (unterminated line column).moved lines = unterminated (line + lines) column := by
  simp only [Diagnostic.moved, unterminated, Diagnostic.ofCode]

theorem ofLocated_moved {normalize : Bool} {index index' : List Nat} {xs : List (Nat × Lexeme)}
    {bytes lines : Nat}
    (shifted : ∀ x ∈ xs, lineColumn index (x.1 + bytes)
      = ((lineColumn index' x.1).1 + lines, (lineColumn index' x.1).2)) :
    ofLocated normalize index (xs.map fun x => (x.1 + bytes, x.2))
      = (ofLocated normalize index' xs).moved bytes lines := by
  have comments : ∀ x ∈ xs, comment? (shape normalize) index (x.1 + bytes, x.2)
      = (comment? (shape normalize) index' x).map (Comment.moved bytes lines) := by
    rintro ⟨o, l⟩ member
    simp only [comment?, shifted _ member, Option.map_map]
    refine congrArg (fun f => (commentBody? l).map f) (funext fun body => ?_)
    simp only [Function.comp, Comment.moved, Comment.mk.injEq, true_and, and_true]
    omega
  have braces : ∀ x ∈ xs, brace? (x.1 + bytes, x.2) = (brace? x).map (Brace.moved bytes) := by
    rintro ⟨o, l⟩ -
    cases l <;> rfl
  have diagnostics : ∀ x ∈ xs, diagnostic? index (x.1 + bytes, x.2)
      = (diagnostic? index' x).map (Diagnostic.moved lines) := by
    rintro ⟨o, l⟩ member
    cases l with
    | blockComment body closed =>
      cases closed with
      | true => rfl
      | false =>
        simp only [diagnostic?, shifted _ member, Option.map_some, moved_unterminated,
          Int.natCast_add]
    | _ => rfl
  simp only [ofLocated, moved, List.filterMap_map, Function.comp_def, List.map_filterMap,
    List.filterMap_congr comments, List.filterMap_congr braces, List.filterMap_congr diagnostics]

/-! ## One line after the other -/

/-- The scan of a text that is read as a text of its own after a newline. -/
theorem ofText_cut {normalize : Bool} {a b : Bytes}
    (settled : Lexeme.endsOpen (a ++ [Bytes.newline]) = false) :
    ofText normalize (a ++ Bytes.newline :: b)
      = (ofText normalize (a ++ [Bytes.newline])).followedBy
          ((ofText normalize b).moved (a.length + 1) (a.count Bytes.newline + 1)) := by
  have regroup : a ++ Bytes.newline :: b = a ++ [Bytes.newline] ++ b := by
    rw [List.append_assoc, List.singleton_append]
  have length : (a ++ [Bytes.newline]).length = a.length + 1 := List.length_append
  have lexemes : Lexeme.ofText (a ++ Bytes.newline :: b)
      = Lexeme.ofText (a ++ [Bytes.newline]) ++ Lexeme.ofText b := by
    rw [regroup]
    exact Lexeme.ofText_append_of_newline List.getLast?_concat settled b
  rw [ofText_eq_ofLocated, ofText_eq_ofLocated, ofText_eq_ofLocated, lexemes,
    Lexeme.located_append, Lexeme.bytes_ofText, length, Lexeme.located_add, ofLocated_append]
  congr 1
  · refine ofLocated_congr fun x member => ?_
    rw [regroup]
    exact lineColumn_append_left b (Nat.le_of_lt (Lexeme.lt_of_mem_located member))
  · refine ofLocated_moved fun x member => ?_
    exact lineColumn_cut a (Nat.le_of_lt (Lexeme.lt_of_mem_located member))

/-- In a short text the span of a comment further on is the span of the comment, further on. -/
theorem span_moved {normalize : Bool} {content : Bytes} {c : Comment} {bytes : Nat}
    (found : c ∈ (ofText normalize content).comments)
    (short : content.length + bytes < UInt32.size) (file lines : Nat) :
    ((c.moved bytes lines).span file).start.toNat = (c.span file).start.toNat + bytes ∧
    ((c.moved bytes lines).span file).stop.toNat = (c.span file).stop.toNat + bytes := by
  obtain ⟨before, l, after, place⟩ := exists_standsAt found
  have inside := place.ending_le
  have forward := place.offset_lt_ending
  have start := place.start
  have stop := place.stop
  rw [UInt32.size] at short
  simp only [Comment.span, Comment.moved, Nat.toUInt32_eq, UInt32.toNat_ofNat', start, stop]
  omega

/-- **Lines are scanned one after the other.**  Where the lines up to some newline leave neither a
block comment nor a backtick literal open, a scan finds in the whole text what it finds in these lines,
and then what it finds in the rest, further on by the bytes and the newlines of these lines; columns
stay.  In a text of less than 2^32 bytes this is true of the spans as well. -/
theorem ofText_append_of_settled (normalize : Bool) (file : Nat) (a b : Bytes)
    (short : (a ++ Bytes.newline :: b).length < UInt32.size)
    (settled : Lexeme.endsOpen (a ++ [Bytes.newline]) = false) :
    ofText normalize (a ++ Bytes.newline :: b)
      = (ofText normalize (a ++ [Bytes.newline])).followedBy
          ((ofText normalize b).moved (a.length + 1) ((a ++ [Bytes.newline]).count Bytes.newline)) ∧
    ∀ c ∈ (ofText normalize b).comments,
      ((c.moved (a.length + 1) ((a ++ [Bytes.newline]).count Bytes.newline)).span file).start.toNat
        = (c.span file).start.toNat + (a.length + 1) ∧
      ((c.moved (a.length + 1) ((a ++ [Bytes.newline]).count Bytes.newline)).span file).stop.toNat
        = (c.span file).stop.toNat + (a.length + 1) := by
  constructor
  · rw [List.count_append, List.count_singleton_self]
    exact ofText_cut settled
  · intro c found
    refine span_moved found ?_ file _
    rw [List.length_append, List.length_cons] at short
    omega

/-- A line with a comment, an apostrophe that is not answered, and a string that is not closed and ends
in a backslash. -/
def damagedLine : Bytes := utf8 "/* it's */ don't \x7b \"// \\"

/-- Two lines that come after it. -/
def intactLines : Bytes := utf8 "\x7d // isn't\n/* open"

theorem scan_after_damagedLine :
    Lexeme.endsOpen (damagedLine ++ [Bytes.newline]) = false ∧
    (damagedLine ++ Bytes.newline :: intactLines).length < UInt32.size ∧
    (ofText false (damagedLine ++ Bytes.newline :: intactLines)).comments.map
        (fun c => (c.start, c.line, c.column)) = [(0, 1, 1), (27, 2, 3), (36, 3, 1)] ∧
    (ofText false (damagedLine ++ Bytes.newline :: intactLines)).braces
      = [⟨.opening, 17⟩, ⟨.closing, 25⟩] ∧
    (ofText false (damagedLine ++ Bytes.newline :: intactLines)).diagnostics
      = [unterminated 3 1] := by
  have settled : Lexeme.endsOpen (damagedLine ++ [Bytes.newline]) = false := by decide +kernel
  have short : (damagedLine ++ Bytes.newline :: intactLines).length < UInt32.size := by
    decide +kernel
  obtain ⟨scanned, -⟩ := ofText_append_of_settled false 0 damagedLine intactLines short settled
  rw [scanned]
  exact ⟨settled, short, by decide +kernel, by decide +kernel, by decide +kernel⟩

end Scan

/-! ## The last line -/

namespace Lexeme

/-- The text ends in a literal that an apostrophe has opened and nothing has closed; `tail` is what
follows the apostrophe. -/
def Swallows (s tail : Bytes) : Prop :=
  (ofText s).getLast? = some (.quoted apostrophe tail) ∧
    (readQuoted apostrophe tail).2.1 = .endOfText

/-- The last lexeme ends before a newline as it ends with the text, unless it is left open or is a
literal that an apostrophe has opened. -/
theorem Reads.concat_newline {s rest : Bytes} {l : Lexeme} (reads : Reads s l rest) (last : rest = [])
    (closed : l.isOpen = false)
    (answered : ∀ tail, l = .quoted apostrophe tail →
      (readQuoted apostrophe tail).2.1 ≠ .endOfText) :
    Reads (s ++ [Bytes.newline]) l [Bytes.newline] := by
  cases reads with
  | lineComment oneLine _ =>
    subst last
    simp only [List.cons_append, List.append_nil]
    exact .lineComment oneLine fun b first => (Option.some.inj first).symm
  | closedBlock rest noEnd =>
    subst last
    simp only [List.cons_append, List.append_assoc, List.nil_append]
    exact .closedBlock [Bytes.newline] noEnd
  | openBlock _ => cases closed
  | doubleQuoted s =>
    have rule := Reads.doubleQuoted (s ++ [Bytes.newline])
    by_cases ended : (readQuoted doubleQuote s).2.1 = .endOfText
    · rwa [readQuoted_of_unended (by decide) [] ended] at rule
    · rwa [readQuoted_of_ended _ ended, last] at rule
  | @singleQuoted s notNewline =>
    have whole := readQuoted_append apostrophe s
    rw [last, List.append_nil] at whole
    have ended := answered _ rfl
    rw [whole] at ended
    have same := readQuoted_of_ended [Bytes.newline] ended
    have rule := Reads.singleQuoted (by rwa [same])
    rwa [same, last] at rule
  | strayApostrophe unanswered =>
    subst last
    cases unanswered
  | closedRaw rest noEnd =>
    subst last
    simp only [List.cons_append, List.append_assoc, List.nil_append]
    exact .closedRaw [Bytes.newline] noEnd
  | openRaw absent =>
    simp only [isOpen, Bool.not_eq_false', List.contains_iff_mem] at closed
    exact absurd closed absent
  | openBrace =>
    subst last
    exact .openBrace [Bytes.newline]
  | closeBrace =>
    subst last
    exact .closeBrace [Bytes.newline]
  | other ordinary _ =>
    subst last
    refine .other ordinary fun _ c first => ?_
    cases first
    decide

theorem ofText_newline : ofText [Bytes.newline] = [.other Bytes.newline] := by
  rw [(reads_newline []).ofText_eq, ofText]

/-- A last newline is read on its own, unless an apostrophe has taken the end of the text. -/
theorem ofText_concat_newline {s : Bytes} (settled : endsOpen s = false)
    (intact : ∀ tail, ¬ Swallows s tail) :
    ofText (s ++ [Bytes.newline]) = ofText s ++ [.other Bytes.newline] := by
  by_cases nonempty : s = []
  · subst nonempty
    rw [List.nil_append, ofText_newline, ofText, List.nil_append]
  · obtain ⟨init, l, split, last, appended⟩ := exists_last nonempty
    have still : Reads (l.bytes ++ [Bytes.newline]) l [Bytes.newline] := by
      refine last.concat_newline rfl (isOpen_eq_false settled split) ?_
      rintro tail rfl unended
      refine intact tail ⟨?_, unended⟩
      rw [split, List.getLast?_concat]
    rw [appended, still.ofText_eq, ofText_newline, split, List.append_assoc]
    rfl

/-- Before a newline an apostrophe stands for itself, and what it has taken is read again. -/
theorem ofText_concat_newline_of_swallows {s tail : Bytes} (swallows : Swallows s tail) :
    ∃ init, ofText s = init ++ [.quoted apostrophe tail] ∧
      ofText (s ++ [Bytes.newline])
        = init ++ .other apostrophe :: ofText (tail ++ [Bytes.newline]) := by
  obtain ⟨isLast, unended⟩ := swallows
  have nonempty : s ≠ [] := by
    rintro rfl
    rw [ofText] at isLast
    cases isLast
  obtain ⟨init, l, split, -, appended⟩ := exists_last nonempty
  rw [split, List.getLast?_concat] at isLast
  cases isLast
  have stray : Reads (apostrophe :: (tail ++ [Bytes.newline])) (.other apostrophe)
      (tail ++ [Bytes.newline]) := by
    refine .strayApostrophe ?_
    rw [readQuoted_of_unended (by decide) [] unended]
  refine ⟨init, split, ?_⟩
  rw [appended, bytes, List.cons_append, stray.ofText_eq]

/-- Is the lexeme something that a scan finds? -/
def isFound : Lexeme → Bool
  | .lineComment _ | .blockComment _ _ | .openBrace | .closeBrace => true
  | _ => false

end Lexeme

namespace Scan

/-- The scan of a text with neither comments nor braces. -/
def nothing : Scan := ⟨[], [], []⟩

theorem followedBy_eq_self_iff {s t : Scan} : s.followedBy t = s ↔ t = nothing := by
  obtain ⟨comments, braces, diagnostics⟩ := s
  obtain ⟨comments', braces', diagnostics'⟩ := t
  simp only [followedBy, nothing, Scan.mk.injEq, List.append_right_eq_self]

theorem followedBy_eq_nothing_iff {s t : Scan} :
    s.followedBy t = nothing ↔ s = nothing ∧ t = nothing := by
  obtain ⟨comments, braces, diagnostics⟩ := s
  obtain ⟨comments', braces', diagnostics'⟩ := t
  simp only [followedBy, nothing, Scan.mk.injEq, List.append_eq_nil_iff]
  tauto

theorem ofLocated_singleton_eq_nothing_iff {normalize : Bool} {index : List Nat} {start : Nat}
    {l : Lexeme} : ofLocated normalize index [(start, l)] = nothing ↔ l.isFound = false := by
  cases l <;> simp [ofLocated, nothing, Lexeme.isFound, comment?, commentBody?, brace?, diagnostic?]

/-- Whether something is found depends neither on where the lexemes stand nor on how lines are
counted. -/
theorem ofLocated_eq_nothing_iff {normalize : Bool} {index : List Nat} {start : Nat}
    {ls : List Lexeme} :
    ofLocated normalize index (Lexeme.located start ls) = nothing ↔
      ∀ l ∈ ls, l.isFound = false := by
  induction ls generalizing start with
  | nil => simp [ofLocated, nothing, Lexeme.located]
  | cons l ls ih =>
    rw [Lexeme.located, ← List.singleton_append, ofLocated_append, followedBy_eq_nothing_iff,
      ofLocated_singleton_eq_nothing_iff, ih, List.forall_mem_cons]

theorem followedBy_nothing (s : Scan) : s.followedBy nothing = s :=
  followedBy_eq_self_iff.2 rfl

/-- Where a text is read as more lexemes with a last newline, the scan finds what is among these. -/
theorem ofText_concat_newline_of_split {normalize : Bool} {s : Bytes} {init old new : List Lexeme}
    (split : Lexeme.ofText s = init ++ old)
    (appended : Lexeme.ofText (s ++ [Bytes.newline]) = init ++ new)
    (unfound : ∀ l ∈ old, l.isFound = false) :
    ofText normalize (s ++ [Bytes.newline]) = ofText normalize s ↔ ∀ l ∈ new, l.isFound = false := by
  have before : ofLocated normalize (lineIndex (s ++ [Bytes.newline])) (Lexeme.located 0 init)
      = ofText normalize s := by
    have same : ofLocated normalize (lineIndex (s ++ [Bytes.newline])) (Lexeme.located 0 init)
        = ofLocated normalize (lineIndex s) (Lexeme.located 0 init) := by
      refine ofLocated_congr fun x member => lineColumn_append_left _ (Nat.le_of_lt ?_)
      refine Lexeme.lt_of_mem_located ?_
      rw [split, Lexeme.located_append]
      exact List.mem_append_left _ member
    rw [same, ofText_eq_ofLocated, split, Lexeme.located_append, ofLocated_append,
      ofLocated_eq_nothing_iff.2 unfound, followedBy_nothing]
  rw [ofText_eq_ofLocated normalize (s ++ [Bytes.newline]), appended, Lexeme.located_append,
    ofLocated_append, before, followedBy_eq_self_iff, ofLocated_eq_nothing_iff]

/-- **A last newline makes no difference**, where neither a block comment nor a backtick literal is left
open, exactly if there is nothing to be found in what an apostrophe on the last line has taken. -/
theorem ofText_concat_newline_iff (normalize : Bool) (content : Bytes)
    (settled : Lexeme.endsOpen content = false) :
    ofText normalize (content ++ [Bytes.newline]) = ofText normalize content ↔
      ∀ tail, Lexeme.Swallows content tail →
        ofText normalize (tail ++ [Bytes.newline]) = nothing := by
  by_cases swallows : ∃ tail, Lexeme.Swallows content tail
  · obtain ⟨tail, swallows⟩ := swallows
    obtain ⟨init, split, appended⟩ := Lexeme.ofText_concat_newline_of_swallows swallows
    rw [ofText_concat_newline_of_split split appended (by simp [Lexeme.isFound]),
      List.forall_mem_cons, ← ofLocated_eq_nothing_iff, ← ofText_eq_ofLocated]
    constructor
    · rintro ⟨-, lost⟩ tail' swallows'
      obtain rfl : tail' = tail := by
        have same := swallows'.1.symm.trans swallows.1
        cases same
        rfl
      exact lost
    · intro lost
      exact ⟨rfl, lost tail swallows⟩
  · have intact : ∀ tail, ¬ Lexeme.Swallows content tail := fun tail some => swallows ⟨tail, some⟩
    have appended := Lexeme.ofText_concat_newline settled intact
    rw [ofText_concat_newline_of_split (List.append_nil _).symm appended (by simp)]
    constructor
    · intro _ tail some
      exact absurd some (intact tail)
    · intro _ l member
      rw [List.mem_singleton.1 member]
      rfl

/-- A lifetime on the last line, before a brace and a comment. -/
def lifetimeLine : Bytes := utf8 "fn f(x: &'a str) \x7b // c"

theorem lifetimeLine_needs_newline :
    Lexeme.endsOpen lifetimeLine = false ∧
    ofText false lifetimeLine = nothing ∧
    (ofText false (lifetimeLine ++ [Bytes.newline])).braces = [⟨.opening, 17⟩] ∧
    ofText false (lifetimeLine ++ [Bytes.newline]) ≠ ofText false lifetimeLine := by
  have settled : Lexeme.endsOpen lifetimeLine = false := by decide +kernel
  have swallows : Lexeme.Swallows lifetimeLine (utf8 "a str) \x7b // c") := by
    constructor
    · decide +kernel
    · decide +kernel
  refine ⟨settled, by decide +kernel, by decide +kernel, ?_⟩
  rw [Ne, ofText_concat_newline_iff false lifetimeLine settled]
  intro lost
  exact absurd (lost _ swallows) (by decide +kernel)

end Scan

end Marginalia
