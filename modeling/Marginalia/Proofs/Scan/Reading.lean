import Marginalia.Scan.Lexeme

/-!
# The rules of reading

A text is read lexeme by lexeme, and there is a rule for each kind of lexeme.
The rules say where a lexeme ends without saying how its end is looked for: a
block comment ends at the first delimiter, or with the text if there is none; a
line comment ends before a newline or with the text; and so on.  The reader
follows the rules (`reads_read`), and the rules leave no choice
(`Reads.read_eq`).

Most rules end a lexeme at something that was seen.  So what is appended to a
text can change only its last lexeme (`exists_last`).  Whether it does depends on
that lexeme alone, and this is how texts are put together here: a statement about
two texts, one after the other, is a statement about the last lexeme of the first.
-/

namespace Marginalia

namespace Lexeme

set_option autoImplicit false

/-! ## Where the parts of a lexeme end -/

theorem newline_notMem_readLine (s : Bytes) : Bytes.newline ∉ (readLine s).1 := by
  induction s with
  | nil => exact List.not_mem_nil
  | cons b rest ih =>
    rw [readLine]
    split
    · exact List.not_mem_nil
    · rename_i hb
      exact List.not_mem_cons_of_ne_of_not_mem (Ne.symm hb) ih

theorem head_readLine (s : Bytes) : ∀ b ∈ (readLine s).2.head?, b = Bytes.newline := by
  induction s with
  | nil => intro b first; cases first
  | cons b rest ih =>
    rw [readLine]
    split
    · rename_i hb
      intro c first
      cases first
      exact hb
    · exact ih

theorem readLine_of_oneLine {body rest : Bytes} (oneLine : Bytes.newline ∉ body)
    (ends : ∀ b ∈ rest.head?, b = Bytes.newline) : readLine (body ++ rest) = (body, rest) := by
  induction body with
  | nil =>
    cases rest with
    | nil => rfl
    | cons b rest =>
      have hb : b = Bytes.newline := ends b rfl
      rw [List.nil_append, readLine, if_pos hb]
  | cons b body ih =>
    have hb : b ≠ Bytes.newline := (List.ne_of_not_mem_cons oneLine).symm
    rw [List.cons_append, readLine, if_neg hb, ih (List.not_mem_of_not_mem_cons oneLine)]

theorem rest_of_readBlock_open {s : Bytes} (h : (readBlock s).2.1 = false) :
    (readBlock s).2.2 = [] := by
  fun_induction readBlock s with
  | case1 => rfl
  | case2 after => cases h
  | case3 b rest _ ih => exact ih h

/-- The delimiter does not occur in the body: where it starts, the body ends. -/
theorem noEnd_readBlock (s : Bytes) : ¬ [star, Bytes.slash] <:+: (readBlock s).1 := by
  fun_induction readBlock s with
  | case1 => simp
  | case2 after => simp
  | case3 b rest notEnd ih =>
    rw [List.infix_cons_iff]
    rintro (⟨more, starts⟩ | inner)
    · obtain ⟨rfl, slash⟩ := List.cons.inj starts
      have whole := readBlock_append rest
      rw [← slash] at whole
      exact notEnd _ rfl whole.symm
    · exact ih inner

theorem readBlock_of_noEnd {body : Bytes} (rest : Bytes)
    (noEnd : ¬ [star, Bytes.slash] <:+: body) :
    readBlock (body ++ star :: Bytes.slash :: rest) = (body, true, rest) := by
  induction body with
  | nil => rfl
  | cons b body ih =>
    have inner : ¬ [star, Bytes.slash] <:+: body := fun h =>
      noEnd (h.trans (List.suffix_cons b body).isInfix)
    rw [List.cons_append, readBlock.eq_3, ih inner]
    -- the delimiter would have to start at `b`, so it would be in the body
    intro after hb hslash
    cases body with
    | nil => exact absurd (List.cons.inj hslash).1 (by decide)
    | cons c body =>
      obtain ⟨rfl, -⟩ := List.cons.inj hslash
      subst hb
      exact noEnd ⟨[], body, rfl⟩

theorem readBlock_of_noEnd_open {body : Bytes} (noEnd : ¬ [star, Bytes.slash] <:+: body) :
    readBlock body = (body, false, []) := by
  cases closed : (readBlock body).2.1 with
  | false =>
    have whole := readBlock_append body
    have rest := rest_of_readBlock_open closed
    rw [closed, rest, if_neg (by decide), List.append_nil, List.append_nil] at whole
    exact Prod.ext whole (Prod.ext closed rest)
  | true =>
    have whole := readBlock_append body
    rw [closed, if_pos rfl] at whole
    exact absurd ⟨_, _, whole⟩ noEnd

/-- A literal in quotes stays on its line. -/
theorem newline_notMem_readQuoted {quote : UInt8} (isQuote : quote ≠ Bytes.newline) (s : Bytes) :
    Bytes.newline ∉ (readQuoted quote s).1 := by
  fun_induction readQuoted quote s with
  | case1 => exact List.not_mem_nil
  | case2 rest => simpa using isQuote.symm
  | case3 rest notQuote => exact List.not_mem_nil
  | case4 notQuote notNewline => simpa using Ne.symm notNewline
  | case5 after notQuote notNewline => simpa using Ne.symm notNewline
  | case6 c after hc notQuote notNewline ih => simp [Ne.symm notNewline, Ne.symm hc, ih]
  | case7 b rest notQuote notNewline notBackslash ih =>
    exact List.not_mem_cons_of_ne_of_not_mem (Ne.symm notNewline) ih

theorem rest_of_readQuoted_endOfText {quote : UInt8} {s : Bytes}
    (unended : (readQuoted quote s).2.1 = .endOfText) : (readQuoted quote s).2.2 = [] := by
  fun_induction readQuoted quote s with
  | case1 => rfl
  | case2 | case3 | case5 => cases unended
  | case4 => rfl
  | case6 c after hc notQuote notNewline ih => exact ih unended
  | case7 b rest notQuote notNewline notBackslash ih => exact ih unended

/-- A literal that has ended is not changed by what is appended. -/
theorem readQuoted_of_ended {quote : UInt8} {s : Bytes} (t : Bytes)
    (ended : (readQuoted quote s).2.1 ≠ .endOfText) :
    readQuoted quote (s ++ t)
      = ((readQuoted quote s).1, (readQuoted quote s).2.1, (readQuoted quote s).2.2 ++ t) := by
  fun_induction readQuoted quote s with
  | case1 => exact absurd rfl ended
  | case2 rest =>
    rw [List.cons_append, readQuoted.eq_def]
    simp
  | case3 rest notQuote =>
    rw [List.cons_append, readQuoted.eq_def]
    simp [notQuote]
  | case4 => exact absurd rfl ended
  | case5 after notQuote notNewline =>
    rw [List.cons_append, List.cons_append, readQuoted.eq_def]
    simp [notQuote, notNewline]
  | case6 c after hc notQuote notNewline ih =>
    rw [List.cons_append, List.cons_append, readQuoted.eq_def]
    simp [notQuote, notNewline, hc, ih ended]
  | case7 b rest notQuote notNewline notBackslash ih =>
    rw [List.cons_append, readQuoted.eq_def]
    simp [notQuote, notNewline, notBackslash, ih ended]

/-- A newline ends a literal that nothing else has ended. -/
theorem readQuoted_of_unended {quote : UInt8} (isQuote : quote ≠ Bytes.newline) {s : Bytes}
    (t : Bytes) (unended : (readQuoted quote s).2.1 = .endOfText) :
    readQuoted quote (s ++ Bytes.newline :: t)
      = ((readQuoted quote s).1, .newline, Bytes.newline :: t) := by
  fun_induction readQuoted quote s with
  | case1 =>
    rw [List.nil_append, readQuoted.eq_def]
    simp [isQuote.symm]
  | case2 | case3 | case5 => cases unended
  | case4 notQuote notNewline =>
    rw [List.cons_append, readQuoted.eq_def]
    simp [notQuote, notNewline]
  | case6 c after hc notQuote notNewline ih =>
    rw [List.cons_append, List.cons_append, readQuoted.eq_def]
    simp [notQuote, notNewline, hc, ih unended]
  | case7 b rest notQuote notNewline notBackslash ih =>
    rw [List.cons_append, readQuoted.eq_def]
    simp [notQuote, notNewline, notBackslash, ih unended]

/-- A backtick literal ends at the first backtick, or with the text if there is none. -/
theorem readRaw_cases (s : Bytes) :
    (∃ body rest, backtick ∉ body ∧ s = body ++ backtick :: rest ∧
      readRaw s = (body ++ [backtick], rest)) ∨
    (backtick ∉ s ∧ readRaw s = (s, [])) := by
  induction s with
  | nil => exact .inr ⟨List.not_mem_nil, rfl⟩
  | cons b s ih =>
    rw [readRaw]
    by_cases hb : b = backtick
    · subst hb
      rw [if_pos rfl]
      exact .inl ⟨[], s, List.not_mem_nil, rfl, rfl⟩
    · rw [if_neg hb]
      rcases ih with ⟨body, rest, absent, split, reads⟩ | ⟨absent, reads⟩
      · rw [reads]
        refine .inl ⟨b :: body, rest, ?_, ?_, rfl⟩
        · exact List.not_mem_cons_of_ne_of_not_mem (Ne.symm hb) absent
        · rw [split, List.cons_append]
      · rw [reads]
        exact .inr ⟨List.not_mem_cons_of_ne_of_not_mem (Ne.symm hb) absent, rfl⟩

theorem readRaw_of_noEnd {body : Bytes} (rest : Bytes) (noEnd : backtick ∉ body) :
    readRaw (body ++ backtick :: rest) = (body ++ [backtick], rest) := by
  induction body with
  | nil => rfl
  | cons b body ih =>
    have hb : b ≠ backtick := (List.ne_of_not_mem_cons noEnd).symm
    rw [List.cons_append, readRaw, if_neg hb, ih (List.not_mem_of_not_mem_cons noEnd)]
    rfl

/-! ## The rules -/

/-- The rules by which the first lexeme of a text is read, with what follows it. -/
inductive Reads : Bytes → Lexeme → Bytes → Prop
  /-- a line comment goes up to a newline or to the end of the text -/
  | lineComment {body rest : Bytes} (oneLine : Bytes.newline ∉ body)
      (ends : ∀ b ∈ rest.head?, b = Bytes.newline) :
      Reads (Bytes.slash :: Bytes.slash :: (body ++ rest)) (.lineComment body) rest
  /-- a block comment goes up to the first delimiter -/
  | closedBlock {body : Bytes} (rest : Bytes) (noEnd : ¬ [star, Bytes.slash] <:+: body) :
      Reads (Bytes.slash :: star :: (body ++ star :: Bytes.slash :: rest)) (.blockComment body true)
        rest
  /-- or it is the rest of the text -/
  | openBlock {body : Bytes} (noEnd : ¬ [star, Bytes.slash] <:+: body) :
      Reads (Bytes.slash :: star :: body) (.blockComment body false) []
  | doubleQuoted (s : Bytes) :
      Reads (doubleQuote :: s) (.quoted doubleQuote (readQuoted doubleQuote s).1)
        (readQuoted doubleQuote s).2.2
  | singleQuoted {s : Bytes} (answered : (readQuoted apostrophe s).2.1 ≠ .newline) :
      Reads (apostrophe :: s) (.quoted apostrophe (readQuoted apostrophe s).1)
        (readQuoted apostrophe s).2.2
  /-- an apostrophe that is not answered on its line stands for itself -/
  | strayApostrophe {s : Bytes} (unanswered : (readQuoted apostrophe s).2.1 = .newline) :
      Reads (apostrophe :: s) (.other apostrophe) s
  /-- a backtick literal goes up to the next backtick -/
  | closedRaw {body : Bytes} (rest : Bytes) (noEnd : backtick ∉ body) :
      Reads (backtick :: (body ++ backtick :: rest)) (.raw (body ++ [backtick])) rest
  /-- or it is the rest of the text -/
  | openRaw {body : Bytes} (noEnd : backtick ∉ body) : Reads (backtick :: body) (.raw body) []
  | openBrace (rest : Bytes) : Reads (leftBrace :: rest) .openBrace rest
  | closeBrace (rest : Bytes) : Reads (rightBrace :: rest) .closeBrace rest
  | other {b : UInt8} {rest : Bytes}
      (ordinary : b ∉ [doubleQuote, apostrophe, backtick, leftBrace, rightBrace])
      (alone : b = Bytes.slash → ∀ c ∈ rest.head?, c ≠ Bytes.slash ∧ c ≠ star) :
      Reads (b :: rest) (.other b) rest

theorem read_doubleQuote (rest : Bytes) :
    read doubleQuote rest
      = (.quoted doubleQuote (readQuoted doubleQuote rest).1, (readQuoted doubleQuote rest).2.2) :=
  rfl

theorem read_apostrophe_of_answered {rest : Bytes}
    (answered : (readQuoted apostrophe rest).2.1 ≠ .newline) :
    read apostrophe rest
      = (.quoted apostrophe (readQuoted apostrophe rest).1, (readQuoted apostrophe rest).2.2) := by
  unfold read
  rw [if_neg (by decide), if_neg (by decide), if_pos rfl]
  split
  · rename_i newline
    exact absurd newline answered
  · rfl

theorem read_apostrophe_of_unanswered {rest : Bytes}
    (unanswered : (readQuoted apostrophe rest).2.1 = .newline) :
    read apostrophe rest = (.other apostrophe, rest) := by
  unfold read
  rw [if_neg (by decide), if_neg (by decide), if_pos rfl, unanswered]

theorem read_backtick (rest : Bytes) :
    read backtick rest = (.raw (readRaw rest).1, (readRaw rest).2) :=
  rfl

/-- A byte that opens nothing is read alone. -/
theorem read_other {b : UInt8} {rest : Bytes}
    (ordinary : b ∉ [doubleQuote, apostrophe, backtick, leftBrace, rightBrace])
    (alone : b = Bytes.slash → ∀ c ∈ rest.head?, c ≠ Bytes.slash ∧ c ≠ star) :
    read b rest = (.other b, rest) := by
  simp only [List.mem_cons, List.not_mem_nil, or_false, not_or] at ordinary
  obtain ⟨double, single, back, left, right⟩ := ordinary
  unfold read
  by_cases hb : b = Bytes.slash
  · rw [if_pos hb]
    split
    · exact absurd rfl (alone hb _ rfl).1
    · exact absurd rfl (alone hb _ rfl).2
    · rfl
  · rw [if_neg hb, if_neg double, if_neg single, if_neg back, if_neg left, if_neg right]

/-- **The rules leave no choice.** -/
theorem Reads.read_eq {b : UInt8} {rest after : Bytes} {l : Lexeme}
    (reads : Reads (b :: rest) l after) : read b rest = (l, after) := by
  cases reads with
  | lineComment oneLine ends =>
    have line := readLine_of_oneLine oneLine ends
    simp [read, line]
  | closedBlock rest noEnd =>
    have block := readBlock_of_noEnd after noEnd
    simp [read, block]
  | openBlock noEnd =>
    have block := readBlock_of_noEnd_open noEnd
    simp [read, block]
  | doubleQuoted => exact read_doubleQuote rest
  | singleQuoted answered => exact read_apostrophe_of_answered answered
  | strayApostrophe unanswered => exact read_apostrophe_of_unanswered unanswered
  | closedRaw rest noEnd => rw [read_backtick, readRaw_of_noEnd after noEnd]
  | openRaw noEnd =>
    rcases readRaw_cases rest with ⟨body, more, -, split, -⟩ | ⟨-, raw⟩
    · exact absurd (split ▸ List.mem_append_right body List.mem_cons_self) noEnd
    · rw [read_backtick, raw]
  | openBrace => rfl
  | closeBrace => rfl
  | other ordinary alone => exact read_other ordinary alone

/-- A slash that does not stand alone opens a comment. -/
theorem opens_comment {b : UInt8} {rest : Bytes}
    (opens : ¬ (b = Bytes.slash → ∀ c ∈ rest.head?, c ≠ Bytes.slash ∧ c ≠ star)) :
    b = Bytes.slash ∧ ∃ body, rest = Bytes.slash :: body ∨ rest = star :: body := by
  simp only [Classical.not_imp, Classical.not_forall, Classical.not_and_iff_not_or_not,
    Classical.not_not] at opens
  obtain ⟨rfl, c, first, opens⟩ := opens
  obtain ⟨body, rfl⟩ := List.head?_eq_some_iff.1 first
  rcases opens with rfl | rfl
  · exact ⟨rfl, body, .inl rfl⟩
  · exact ⟨rfl, body, .inr rfl⟩

theorem reads_readLine (s : Bytes) :
    Reads (Bytes.slash :: Bytes.slash :: s) (.lineComment (readLine s).1) (readLine s).2 := by
  have rule := Reads.lineComment (newline_notMem_readLine s) (head_readLine s)
  rwa [readLine_append] at rule

theorem reads_readBlock (s : Bytes) :
    Reads (Bytes.slash :: star :: s) (.blockComment (readBlock s).1 (readBlock s).2.1)
      (readBlock s).2.2 := by
  have whole := readBlock_append s
  have noEnd := noEnd_readBlock s
  cases closed : (readBlock s).2.1 with
  | true =>
    have rule := Reads.closedBlock (readBlock s).2.2 noEnd
    rw [closed, if_pos rfl, List.append_assoc, List.cons_append, List.singleton_append] at whole
    rwa [whole] at rule
  | false =>
    have rest := rest_of_readBlock_open closed
    rw [closed, rest, if_neg (by decide), List.append_nil, List.append_nil] at whole
    rw [whole] at noEnd
    rw [whole, rest]
    exact .openBlock noEnd

/-- **The reader follows the rules.** -/
theorem reads_read (b : UInt8) (rest : Bytes) :
    Reads (b :: rest) (read b rest).1 (read b rest).2 := by
  by_cases ordinary : b ∈ [doubleQuote, apostrophe, backtick, leftBrace, rightBrace]
  · simp only [List.mem_cons, List.not_mem_nil, or_false] at ordinary
    rcases ordinary with rfl | rfl | rfl | rfl | rfl
    · exact .doubleQuoted rest
    · by_cases answered : (readQuoted apostrophe rest).2.1 = .newline
      · rw [read_apostrophe_of_unanswered answered]
        exact .strayApostrophe answered
      · rw [read_apostrophe_of_answered answered]
        exact .singleQuoted answered
    · rw [read_backtick]
      rcases readRaw_cases rest with ⟨body, more, noEnd, rfl, raw⟩ | ⟨noEnd, raw⟩
      · rw [raw]
        exact .closedRaw more noEnd
      · rw [raw]
        exact .openRaw noEnd
    · exact .openBrace rest
    · exact .closeBrace rest
  · by_cases alone : b = Bytes.slash → ∀ c ∈ rest.head?, c ≠ Bytes.slash ∧ c ≠ star
    · rw [read_other ordinary alone]
      exact .other ordinary alone
    · obtain ⟨rfl, body, rfl | rfl⟩ := opens_comment alone
      · exact reads_readLine body
      · exact reads_readBlock body

theorem Reads.ofText_eq {s rest : Bytes} {l : Lexeme} (reads : Reads s l rest) :
    ofText s = l :: ofText rest := by
  cases s with
  | nil => cases reads
  | cons b tail => rw [ofText, reads.read_eq]

theorem Reads.bytes_append {s rest : Bytes} {l : Lexeme} (reads : Reads s l rest) :
    l.bytes ++ rest = s := by
  cases s with
  | nil => cases reads
  | cons b tail =>
    have whole := bytes_read b tail
    rwa [reads.read_eq] at whole

/-! ## What is appended to a text -/

/-- A lexeme that something follows has ended, and stays as it is whatever is appended. -/
theorem Reads.append {s rest : Bytes} {l : Lexeme} (reads : Reads s l rest) (followed : rest ≠ [])
    (t : Bytes) : Reads (s ++ t) l (rest ++ t) := by
  cases reads with
  | lineComment oneLine ends =>
    simp only [List.cons_append, List.append_assoc]
    obtain ⟨c, more, rfl⟩ := List.exists_cons_of_ne_nil followed
    exact .lineComment oneLine ends
  | closedBlock rest noEnd =>
    simp only [List.cons_append, List.append_assoc]
    exact .closedBlock (rest ++ t) noEnd
  | openBlock noEnd => exact absurd rfl followed
  | doubleQuoted s =>
    have ended := mt rest_of_readQuoted_endOfText followed
    have rule := Reads.doubleQuoted (s ++ t)
    rwa [readQuoted_of_ended t ended] at rule
  | singleQuoted answered =>
    have ended := mt rest_of_readQuoted_endOfText followed
    have same := readQuoted_of_ended t ended
    have rule := Reads.singleQuoted (by rwa [same])
    rwa [same] at rule
  | strayApostrophe unanswered =>
    have ended : (readQuoted apostrophe rest).2.1 ≠ .endOfText := by
      rw [unanswered]
      decide
    have still : (readQuoted apostrophe (rest ++ t)).2.1 = .newline := by
      rwa [readQuoted_of_ended t ended]
    exact .strayApostrophe still
  | closedRaw rest noEnd =>
    simp only [List.cons_append, List.append_assoc]
    exact .closedRaw (rest ++ t) noEnd
  | openRaw noEnd => exact absurd rfl followed
  | openBrace rest => exact .openBrace (rest ++ t)
  | closeBrace rest => exact .closeBrace (rest ++ t)
  | other ordinary alone =>
    obtain ⟨c, more, rfl⟩ := List.exists_cons_of_ne_nil followed
    exact .other ordinary alone

/-- **What is appended to a text can change only its last lexeme.**  The induction is on the reading
of the text: as long as something follows, a lexeme stays as it is. -/
theorem exists_last {s : Bytes} (nonempty : s ≠ []) :
    ∃ init l, ofText s = init ++ [l] ∧ Reads l.bytes l [] ∧
      ∀ t, ofText (s ++ t) = init ++ ofText (l.bytes ++ t) := by
  fun_induction ofText s with
  | case1 => exact absurd rfl nonempty
  | case2 b rest ih =>
    have reads := reads_read b rest
    by_cases last : (read b rest).2 = []
    · have whole := reads.bytes_append
      rw [last] at reads whole
      rw [List.append_nil] at whole
      refine ⟨[], (read b rest).1, ?_, ?_, ?_⟩
      · rw [last, ofText, List.nil_append]
      · rwa [whole]
      · intro t
        rw [whole, List.nil_append]
    · obtain ⟨init, l, split, ends, appended⟩ := ih last
      refine ⟨(read b rest).1 :: init, l, ?_, ends, ?_⟩
      · rw [split, List.cons_append]
      · intro t
        rw [(reads.append last t).ofText_eq, appended, List.cons_append]

end Lexeme

end Marginalia
