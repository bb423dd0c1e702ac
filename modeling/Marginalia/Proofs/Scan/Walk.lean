import Marginalia.Proofs.Scan.LineEnd
import Marginalia.Scan.Walk

/-!
# A walk ends and stays in the text

A cursor with 32 bits walks through every text whose length has an offset, and finds what a
scan finds (`Walk.run_finished`).  It looks at no byte outside the text, cuts no part out
that is not there, and is never put beyond the end.

Going back to an apostrophe is no danger to this.  What a turn of the loop steps over in the
end is one lexeme (`Walk.gives_turn`), and no lexeme is empty: a turn that goes back has the
apostrophe behind it.  So the offsets at the head of the loop increase, and there are as many
turns as lexemes (`Walk.gives_loop`).  Inside a literal there is no step behind a backslash
that is the last byte, but then the literal is over, too.

Each part of a walk has a rule that says where it starts and where it ends (`Walk.Gives`): the
text is divided into what is behind the cursor and what is ahead of it (`Walker.At`).
-/

namespace Marginalia

set_option autoImplicit false

open Lexeme

/-! ## Staying in bounds -/

/-- An act stays within a text of so many bytes. -/
def Act.Within (size : Nat) : Act → Prop
  | .look offset => offset.toNat < size
  | .cut start stop => start ≤ stop ∧ stop.toNat ≤ size
  | .go offset => offset.toNat ≤ size

/-- The offsets of lexemes from an offset on, in 32 bits. -/
def Lexeme.starts (offset : Nat) (ls : List Lexeme) : List UInt32 :=
  (located offset ls).map fun x => x.1.toUInt32

/-- A walk through a whole text has come to an end as it should. -/
structure Walker.Finished (content : Bytes) (normalize : Bool) (w : Walker) : Prop where
  /-- it has found what a scan finds -/
  found : w.found = Scan.ofText normalize content
  /-- it has only looked at bytes of the text and only cut out parts of it, and the cursor has never
  been beyond the end -/
  within : ∀ act ∈ w.acts, act.Within content.length
  /-- each turn of the loop has brought the cursor forward -/
  forward : w.heads.IsChain (· < ·)
  /-- the turns have started where the lexemes of the text start -/
  heads : w.heads = starts 0 (ofText content) ++ [content.length.toUInt32]
  /-- the cursor is at the end of the text -/
  ends : w.offset.toNat = content.length

/-- A walker stands behind `before` and in front of `after`, and has stayed in bounds so far. -/
structure Walker.At (content before after : Bytes) (found : Scan) (heads : List UInt32) (w : Walker) :
    Prop where
  short : content.length < UInt32.size
  split : content = before ++ after
  offset : w.offset = before.length.toUInt32
  found : w.found = found
  heads : w.heads = heads
  acts : ∀ act ∈ w.acts, act.Within content.length

namespace Walk

open Walker (At)

/-! ## Rules

A rule promises an end, not only that what is reached at the end is right. -/

section Rules

variable {α β : Type} {P Q R : Walker → Prop} {m : Walk α} {a : α} {f : α → Walk β} {b : β}

/-- From wherever a walker satisfies `P`, a part of a walk comes to an end, gives `a`, and leaves the
walker where it satisfies `Q`. -/
def Gives (P : Walker → Prop) (m : Walk α) (a : α) (Q : Walker → Prop) : Prop :=
  ∀ w, P w → ∃ w', m w = some (a, w') ∧ Q w'

theorem Gives.bind (first : Gives P m a Q) (second : Gives Q (f a) b R) : Gives P (m >>= f) b R := by
  intro w start
  obtain ⟨w', step, between⟩ := first w start
  obtain ⟨w'', rest, ends⟩ := second w' between
  refine ⟨w'', ?_, ends⟩
  change (m w >>= fun p => f p.1 p.2) = some (b, w'')
  rw [step]
  exact rest

/-- What is known of the walker may be used before the first step. -/
theorem Gives.of_known (known : ∀ w, P w → Gives P m a Q) : Gives P m a Q :=
  fun w start => known w start w start

theorem gives_pure (a : α) (P : Walker → Prop) : Gives P (pure a) a P := fun w start => ⟨w, rfl, start⟩

theorem gives_modify {g : Walker → Walker} (after : ∀ w, P w → Q (g w)) :
    Gives P (modify g : Walk Unit) () Q := fun w start => ⟨g w, rfl, after w start⟩

theorem gives_some {o : Option α} (found : o = some a) (P : Walker → Prop) :
    Gives P (liftM o : Walk α) a P := by
  intro w start
  refine ⟨w, ?_, start⟩
  change (o >>= fun a => some (a, w)) = some (a, w)
  rw [found]
  rfl

variable {step : Walk (Option β)}

/-- Steps come to an end where one of them gives something. -/
theorem Gives.done (last : Gives P step (some b) Q) : Gives P step.untilSome b Q := by
  rw [untilSome]
  exact last.bind (gives_pure b Q)

/-- Where a step gives nothing, the others follow. -/
theorem Gives.next (first : Gives P step none Q) (rest : Gives Q step.untilSome b R) :
    Gives P step.untilSome b R := by
  rw [untilSome]
  exact first.bind rest

end Rules

/-! ## The cursor -/

section Cursor

variable {content before after : Bytes} {found : Scan} {heads : List UInt32} {b c : UInt8}

theorem toNat_length (split : content = before ++ after) (short : content.length < UInt32.size) :
    before.length.toUInt32.toNat = before.length := by
  have inside : before.length < UInt32.size := by
    rw [split, List.length_append] at short
    omega
  exact UInt32.toNat_ofNat_of_lt' inside

/-- The offset of a cursor does not wrap. -/
theorem length_succ (before : Bytes) (b : UInt8) :
    before.length.toUInt32 + 1 = (before ++ [b]).length.toUInt32 := by
  rw [List.length_append, List.length_singleton, Nat.toUInt32_eq, Nat.toUInt32_eq, UInt32.ofNat_add]
  rfl

theorem limit_le_iff (split : content = before ++ after) (short : content.length < UInt32.size) :
    limit content ≤ before.length.toUInt32 ↔ after = [] := by
  have stop : (limit content).toNat = content.length := UInt32.toNat_ofNat_of_lt' short
  have length := congrArg List.length split
  rw [List.length_append] at length
  rw [UInt32.le_iff_toNat_le, stop, toNat_length split short, ← List.length_eq_zero_iff]
  omega

theorem split_succ (split : content = before ++ b :: after) : content = before ++ [b] ++ after := by
  rw [split, List.append_assoc, List.singleton_append]

theorem gives_here :
    Gives (At content before after found heads) here before.length.toUInt32
      (At content before after found heads) := by
  intro w at_
  exact ⟨w, congrArg (fun o => some (o, w)) at_.offset, at_⟩

theorem gives_atEnd :
    Gives (At content before after found heads) (atEnd content) after.isEmpty
      (At content before after found heads) := by
  intro w at_
  have answer : decide (limit content ≤ w.offset) = after.isEmpty := by
    rw [at_.offset, Bool.eq_iff_iff, decide_eq_true_iff, List.isEmpty_iff]
    exact limit_le_iff at_.split at_.short
  exact ⟨w, congrArg (fun a => some (a, w)) answer, at_⟩

theorem gives_record {act : Act} (within : act.Within content.length) :
    Gives (At content before after found heads) (record act) () (At content before after found heads) := by
  refine gives_modify ?_
  rintro w ⟨short, split, place, rfl, rfl, acts⟩
  refine ⟨short, split, place, rfl, rfl, ?_⟩
  rw [List.forall_mem_append, List.forall_mem_singleton]
  exact ⟨acts, within⟩

theorem gives_note (change : Scan → Scan) :
    Gives (At content before after found heads) (note change) ()
      (At content before after (change found) heads) := by
  refine gives_modify ?_
  rintro w ⟨short, split, place, rfl, rfl, acts⟩
  exact ⟨short, split, place, rfl, rfl, acts⟩

theorem gives_reachHead :
    Gives (At content before after found heads) reachHead ()
      (At content before after found (heads ++ [before.length.toUInt32])) := by
  refine gives_modify ?_
  rintro w ⟨short, split, place, rfl, rfl, acts⟩
  exact ⟨short, split, place, rfl, congrArg (fun o => w.heads ++ [o]) place, acts⟩

theorem gives_look {offset : UInt32} (there : content[offset.toNat]? = some b) :
    Gives (At content before after found heads) (look content offset) b
      (At content before after found heads) := by
  have inside : (Act.look offset).Within content.length := (List.getElem?_eq_some_iff.1 there).1
  exact (gives_record inside).bind (gives_some there _)

/-- A cursor may be put between any two parts of the text. -/
theorem gives_go (before' : Bytes) {after' : Bytes} (split : content = before' ++ after') :
    Gives (At content before after found heads) (go before'.length.toUInt32) ()
      (At content before' after' found heads) := by
  refine .of_known fun _ known => Gives.bind (gives_record ?_) (gives_modify ?_)
  · have length := congrArg List.length split
    rw [List.length_append] at length
    rw [Act.Within, toNat_length split known.short]
    omega
  · rintro w ⟨short, -, -, rfl, rfl, acts⟩
    exact ⟨short, split, rfl, rfl, rfl, acts⟩

theorem look_split (split : content = before ++ b :: after) (short : content.length < UInt32.size) :
    content[before.length.toUInt32.toNat]? = some b := by
  rw [toNat_length split short, split, List.getElem?_append_right (Nat.le_refl _), Nat.sub_self,
    List.getElem?_cons_zero]

/-! ### Looking and stepping -/

theorem gives_peek :
    Gives (At content before (b :: after) found heads) (peek content) b
      (At content before (b :: after) found heads) :=
  .of_known fun _ known =>
    gives_atEnd.bind (gives_here.bind (gives_look (look_split known.split known.short)))

theorem gives_peek_nil :
    Gives (At content before [] found heads) (peek content) 0 (At content before [] found heads) :=
  gives_atEnd.bind (gives_pure 0 _)

theorem gives_bump :
    Gives (At content before (b :: after) found heads) (bump content) b
      (At content (before ++ [b]) after found heads) := by
  refine .of_known fun _ known => gives_atEnd.bind (gives_here.bind ?_)
  refine (gives_look (look_split known.split known.short)).bind ?_
  rw [length_succ before b]
  exact (gives_go (before ++ [b]) (split_succ known.split)).bind (gives_pure b _)

theorem gives_bump_nil :
    Gives (At content before [] found heads) (bump content) 0 (At content before [] found heads) :=
  gives_atEnd.bind (gives_pure 0 _)

theorem gives_peek2 :
    Gives (At content before (b :: after) found heads) (peek2 content) (after.head?.map fun c => (b, c))
      (At content before (b :: after) found heads) := by
  refine .of_known fun _ known => gives_here.bind ?_
  have split := split_succ known.split
  have last := limit_le_iff split known.short
  rw [← length_succ] at last
  cases after with
  | nil =>
    rw [if_pos (last.2 rfl)]
    exact gives_pure none _
  | cons c after =>
    have second : content[(before.length.toUInt32 + 1).toNat]? = some c := by
      rw [length_succ before b]
      exact look_split split known.short
    rw [if_neg fun none => List.cons_ne_nil c after (last.1 none)]
    exact (gives_look (look_split known.split known.short)).bind
      ((gives_look second).bind (gives_pure _ _))

end Cursor

/-! ## To the end of a comment or a literal -/

section Loops

variable {content before : Bytes} {found : Scan} {heads : List UInt32}

theorem gives_skipLine (s : Bytes) :
    Gives (At content before s found heads) (skipLine content) ()
      (At content (before ++ (readLine s).1) (readLine s).2 found heads) := by
  induction s generalizing before with
  | nil =>
    rw [readLine, List.append_nil]
    exact .done (gives_atEnd.bind (gives_pure _ _))
  | cons b rest ih =>
    rw [readLine]
    by_cases ends : b = Bytes.newline
    · rw [if_pos ends, List.append_nil]
      refine .done (gives_atEnd.bind (gives_peek.bind ?_))
      rw [if_pos ends]
      exact gives_pure _ _
    · rw [if_neg ends, List.append_cons]
      refine .next (gives_atEnd.bind (gives_peek.bind ?_)) ih
      rw [if_neg ends]
      exact gives_bump.bind (gives_pure none _)

theorem gives_skipBlock (s : Bytes) :
    Gives (At content before s found heads) (skipBlock content) (readBlock s).2.1
      (At content (before ++ ((readBlock s).1 ++ if (readBlock s).2.1 then [star, Bytes.slash] else []))
        (readBlock s).2.2 found heads) := by
  fun_induction readBlock s generalizing before with
  | case1 =>
    simp only [Bool.false_eq_true, if_false, List.append_nil]
    exact .done (gives_atEnd.bind (gives_pure _ _))
  | case2 after =>
    have both : before ++ [star, Bytes.slash] = before ++ [star] ++ [Bytes.slash] := List.append_cons _ _ _
    refine .done (gives_atEnd.bind (gives_peek2.bind ?_))
    rw [List.nil_append, if_pos rfl, both]
    exact gives_bump.bind (gives_bump.bind (gives_pure _ _))
  | case3 b rest notEnd ih =>
    rw [List.cons_append, List.append_cons]
    refine .next (gives_atEnd.bind (gives_peek2.bind ?_)) ih
    rw [if_neg]
    · exact gives_bump.bind (gives_pure none _)
    · intro same
      obtain ⟨c, first, pair⟩ := Option.map_eq_some_iff.1 same
      obtain ⟨rfl, rfl⟩ := Prod.mk.inj pair
      obtain ⟨after, rfl⟩ := List.head?_eq_some_iff.1 first
      exact notEnd after rfl rfl

theorem gives_skipRaw (s : Bytes) :
    Gives (At content before s found heads) (skipRaw content) ()
      (At content (before ++ (readRaw s).1) (readRaw s).2 found heads) := by
  induction s generalizing before with
  | nil =>
    rw [readRaw, List.append_nil]
    exact .done (gives_atEnd.bind (gives_pure _ _))
  | cons b rest ih =>
    rw [readRaw]
    by_cases ends : b = backtick
    · rw [if_pos ends]
      refine .done (gives_atEnd.bind (gives_bump.bind ?_))
      rw [if_pos ends]
      exact gives_pure _ _
    · rw [if_neg ends]
      dsimp only
      rw [List.append_cons before b (readRaw rest).1]
      refine .next (gives_atEnd.bind (gives_bump.bind ?_)) ih
      rw [if_neg ends]
      exact gives_pure none _

end Loops

/-! ## Literals in quotes -/

section Literals

variable {content before opened rest : Bytes} {found : Scan} {heads : List UInt32} {quote : UInt8}

/-- Where a walker is when a literal in quotes has been read: behind what belongs to it, or back behind
an apostrophe that is not answered. -/
def BehindLiteral (content before opened rest : Bytes) (found : Scan) (heads : List UInt32)
    (quote : UInt8) (literal : Bytes × Ending × Bytes) : Walker → Prop :=
  if quote = apostrophe ∧ literal.2.1 = .newline then At content (opened ++ [quote]) rest found heads
  else At content (before ++ literal.1) literal.2.2 found heads

theorem behindLiteral_of_ended {ending : Ending} (ended : ending ≠ .newline) (tail after : Bytes) :
    BehindLiteral content before opened rest found heads quote (tail, ending, after)
      = At content (before ++ tail) after found heads :=
  if_neg fun unended => ended unended.2

/-- A byte of a literal may be counted to what stands before the rest of it. -/
theorem behindLiteral_cons (b : UInt8) (literal : Bytes × Ending × Bytes) :
    BehindLiteral content before opened rest found heads quote (b :: literal.1, literal.2)
      = BehindLiteral content (before ++ [b]) opened rest found heads quote literal := by
  simp only [BehindLiteral, List.append_assoc, List.singleton_append]

theorem gives_skipLiteral_nil (offset : UInt32) :
    Gives (At content before [] found heads) (skipLiteral content quote offset) ()
      (At content before [] found heads) :=
  .done (gives_atEnd.bind (gives_pure _ _))

theorem gives_skipLiteral_newline (isQuote : quote ≠ Bytes.newline)
    (back : content = opened ++ quote :: rest) (s : Bytes) :
    Gives (At content before (Bytes.newline :: s) found heads)
      (skipLiteral content quote opened.length.toUInt32) ()
      (BehindLiteral content before opened rest found heads quote ([], .newline, Bytes.newline :: s)) := by
  rw [BehindLiteral]
  refine .done (gives_atEnd.bind (gives_peek.bind ?_))
  rw [if_neg isQuote.symm, if_neg (by decide), if_pos rfl]
  by_cases single : quote = apostrophe
  · rw [if_pos single, if_pos ⟨single, rfl⟩]
    exact (gives_go opened back).bind (gives_bump.bind (gives_pure _ _))
  · rw [if_neg single, if_neg (fun both => single both.1), List.append_nil]
    exact gives_pure _ _

theorem gives_skipLiteral (isQuote : quote = doubleQuote ∨ quote = apostrophe)
    (back : content = opened ++ quote :: rest) (s : Bytes) :
    Gives (At content before s found heads) (skipLiteral content quote opened.length.toUInt32) ()
      (BehindLiteral content before opened rest found heads quote (readQuoted quote s)) := by
  have isQuote' : quote ≠ Bytes.newline := by rcases isQuote with rfl | rfl <;> decide
  -- the cursor goes on by what the reader takes, so one rule for each of its cases is enough; `opened`
  -- stays, as the place to go back to
  fun_induction readQuoted quote s generalizing before with
  | case1 =>
    rw [behindLiteral_of_ended (by decide), List.append_nil]
    exact gives_skipLiteral_nil _
  | case2 after =>
    rw [behindLiteral_of_ended (by decide)]
    refine .done (gives_atEnd.bind (gives_peek.bind ?_))
    rw [if_pos rfl]
    exact gives_bump.bind (gives_pure _ _)
  | case3 after notQuote => exact gives_skipLiteral_newline isQuote' back after
  | case4 notQuote notNewline =>
    rw [behindLiteral_of_ended (by decide)]
    -- nothing is behind the backslash, so the second step over a byte is none
    refine .next (gives_atEnd.bind (gives_peek.bind ?_)) (gives_skipLiteral_nil _)
    rw [if_neg notQuote, if_pos rfl]
    refine gives_bump.bind (gives_peek_nil.bind ?_)
    rw [if_neg (by decide)]
    exact gives_bump_nil.bind (gives_pure none _)
  | case5 after notQuote notNewline =>
    rw [behindLiteral_cons backslash ([], .newline, Bytes.newline :: after)]
    refine .next (gives_atEnd.bind (gives_peek.bind ?_)) (gives_skipLiteral_newline isQuote' back after)
    rw [if_neg notQuote, if_pos rfl]
    refine gives_bump.bind (gives_peek.bind ?_)
    rw [if_pos rfl]
    exact gives_pure none _
  | case6 c after notNewline' notQuote notNewline ih =>
    rw [behindLiteral_cons backslash (c :: (readQuoted quote after).1, _),
      behindLiteral_cons c (readQuoted quote after)]
    refine .next (gives_atEnd.bind (gives_peek.bind ?_)) ih
    rw [if_neg notQuote, if_pos rfl]
    refine gives_bump.bind (gives_peek.bind ?_)
    rw [if_neg notNewline']
    exact gives_bump.bind (gives_pure none _)
  | case7 b after notQuote notNewline notBackslash ih =>
    rw [behindLiteral_cons b (readQuoted quote after)]
    refine .next (gives_atEnd.bind (gives_peek.bind ?_)) ih
    rw [if_neg notQuote, if_neg notBackslash, if_neg notNewline]
    exact gives_bump.bind (gives_pure none _)

theorem gives_skipQuoted (isQuote : quote = doubleQuote ∨ quote = apostrophe) (rest : Bytes) :
    Gives (At content before (quote :: rest) found heads) (skipQuoted content quote) ()
      (BehindLiteral content (before ++ [quote]) before rest found heads quote
        (readQuoted quote rest)) :=
  .of_known fun _ known => gives_here.bind (gives_bump.bind (gives_skipLiteral isQuote known.split rest))

end Literals

/-! ## Comments -/

section Comments

variable {content before after : Bytes} {found : Scan} {heads : List UInt32}

theorem length_add_two (before : Bytes) (b c : UInt8) :
    before.length.toUInt32 + 2 = (before ++ [b, c]).length.toUInt32 := by
  have both : before ++ [b, c] = before ++ [b] ++ [c] := List.append_cons _ _ _
  have two : before.length.toUInt32 + 2 = before.length.toUInt32 + 1 + 1 := by
    rw [UInt32.add_assoc]
    rfl
  rw [both, ← length_succ, ← length_succ, two]

theorem gives_cut {s t u : Bytes} (split : content = s ++ (t ++ u)) :
    Gives (At content before after found heads)
      (cut content s.length.toUInt32 (s ++ t).length.toUInt32) t (At content before after found heads) := by
  refine .of_known fun _ known => ?_
  have start := toNat_length split known.short
  have split' : content = s ++ t ++ u := by rw [split, List.append_assoc]
  have stop := toNat_length split' known.short
  have order : s.length.toUInt32 ≤ (s ++ t).length.toUInt32 := by
    rw [UInt32.le_iff_toNat_le, start, stop]
    exact (List.prefix_append s t).length_le
  have inside : (s ++ t).length.toUInt32.toNat ≤ content.length := by
    rw [stop, split']
    exact (List.prefix_append _ u).length_le
  have part : (content.take (s ++ t).length.toUInt32.toNat).drop s.length.toUInt32.toNat = t := by
    rw [start, stop, split', List.take_left' rfl, List.drop_left' rfl]
  refine Gives.bind (gives_record ⟨order, inside⟩) ?_
  rw [if_pos ⟨order, inside⟩, part]
  exact gives_pure t _

/-- The line and the column of an offset exceed it by one at most. -/
theorem lineColumn_le (content : Bytes) (offset : Nat) :
    (lineColumn (lineIndex content) offset).1 ≤ offset + 1 ∧
    (lineColumn (lineIndex content) offset).2 ≤ offset + 1 := by
  have line := line_eq_count content offset
  have fewer : (content.take offset).count Bytes.newline ≤ (content.take offset).length :=
    List.count_le_length
  rw [List.length_take] at fewer
  refine ⟨by omega, ?_⟩
  simp only [lineColumn]
  omega

/-- So they have 32 bits if there is a byte at the offset of a text that is short enough. -/
theorem toNat_position {offset : UInt32} (short : content.length < UInt32.size)
    (inside : offset.toNat < content.length) :
    (Position.ofOffset (lineIndex content) offset).line.toNat
      = (lineColumn (lineIndex content) offset.toNat).1 ∧
    (Position.ofOffset (lineIndex content) offset).column.toNat
      = (lineColumn (lineIndex content) offset.toNat).2 := by
  obtain ⟨line, column⟩ := lineColumn_le content offset.toNat
  have position : Position.ofOffset (lineIndex content) offset
      = ⟨(lineColumn (lineIndex content) offset.toNat).1.toUInt32,
        (lineColumn (lineIndex content) offset.toNat).2.toUInt32⟩ := rfl
  rw [position]
  exact ⟨UInt32.toNat_ofNat_of_lt' (by omega), UInt32.toNat_ofNat_of_lt' (by omega)⟩

section Emit

variable {normalize : Bool} {l : Lexeme} {kind : CommentKind} {c : Comment} {s body t : Bytes}

/-- A comment that is written down with its offsets in 32 bits is the one that a scan finds. -/
theorem commentOf_eq (short : content.length < UInt32.size) (split : content = before ++ l.bytes ++ after)
    (isComment : Scan.commentBody? l = some (kind, body))
    (noted : Scan.comment? (Scan.shape normalize) (lineIndex content) (before.length, l) = some c) :
    commentOf content normalize kind before.length.toUInt32 (before ++ l.bytes).length.toUInt32 l.bytes
      body = c := by
  have start := toNat_length (split.trans (List.append_assoc ..)) short
  have stop := toNat_length split short
  have inside : before.length.toUInt32.toNat < content.length := by
    have some := List.length_pos_iff.2 (bytes_ne_nil l)
    rw [start, split, List.length_append, List.length_append]
    omega
  obtain ⟨line, column⟩ := toNat_position short inside
  rw [start] at line column
  rw [Scan.comment?, isComment] at noted
  simp only [commentOf, line, column, start, stop]
  rw [List.length_append, Int.natCast_add]
  exact Option.some.inj noted

theorem gives_emit {bodyStart bodyStop : UInt32} (isComment : Scan.commentBody? l = some (kind, body))
    (written : l.bytes = s ++ (body ++ t))
    (noted : Scan.comment? (Scan.shape normalize) (lineIndex content) (before.length, l) = some c)
    (starts : bodyStart = (before ++ s).length.toUInt32)
    (stops : bodyStop = (before ++ s ++ body).length.toUInt32) :
    Gives (At content (before ++ l.bytes) after found heads)
      (emit content normalize kind before.length.toUInt32 (before ++ l.bytes).length.toUInt32 bodyStart
        bodyStop) c
      (At content (before ++ l.bytes) after { found with comments := found.comments ++ [c] } heads) := by
  refine .of_known fun _ known => ?_
  have split : content = before ++ (l.bytes ++ after) := by
    rw [known.split, List.append_assoc]
  have split' : content = before ++ s ++ (body ++ (t ++ after)) := by
    rw [split, written]
    simp only [List.append_assoc]
  rw [starts, stops]
  refine (gives_cut split).bind ((gives_cut split').bind ?_)
  rw [commentOf_eq known.short known.split isComment noted]
  exact (gives_note _).bind (gives_pure c _)

end Emit

end Comments

/-! ## Turns -/

section Turns

variable {content before after : Bytes} {found : Scan} {heads : List UInt32} {normalize : Bool}

/-- A walker stands behind a lexeme and has found what it is. -/
def Behind (content before after : Bytes) (found : Scan) (heads : List UInt32) (normalize : Bool)
    (l : Lexeme) : Walker → Prop :=
  At content (before ++ l.bytes) after
    (found.followedBy (Scan.ofLocated normalize (lineIndex content) [(before.length, l)])) heads

/-- Behind a lexeme that is neither a comment nor a brace nothing more is found. -/
theorem behind_of_not_isFound {l : Lexeme} (nothing : l.isFound = false) :
    Behind content before after found heads normalize l
      = At content (before ++ l.bytes) after found heads := by
  rw [Behind, Scan.ofLocated_singleton_eq_nothing_iff.2 nothing, Scan.followedBy_nothing]

theorem followedBy_single (index : List Nat) (x : Nat × Lexeme) :
    found.followedBy (Scan.ofLocated normalize index [x])
      = ⟨found.comments ++ (Scan.comment? (Scan.shape normalize) index x).toList,
          found.braces ++ (Scan.brace? x).toList,
          found.diagnostics ++ (Scan.diagnostic? index x).toList⟩ := by
  simp only [Scan.followedBy, Scan.ofLocated, List.filterMap_cons, List.filterMap_nil]
  cases Scan.comment? (Scan.shape normalize) index x <;> cases Scan.brace? x <;>
    cases Scan.diagnostic? index x <;> rfl

theorem gives_comment_line (s : Bytes) :
    Gives (At content before (Bytes.slash :: Bytes.slash :: s) found heads) (comment content normalize)
      true (Behind content before (readLine s).2 found heads normalize (.lineComment (readLine s).1)) := by
  refine gives_here.bind (gives_peek2.bind ?_)
  refine gives_bump.bind (gives_bump.bind ((gives_skipLine s).bind (gives_here.bind ?_)))
  have whole : before ++ [Bytes.slash] ++ [Bytes.slash] ++ (readLine s).1
      = before ++ (Lexeme.lineComment (readLine s).1).bytes := by simp [bytes]
  rw [whole, Behind, followedBy_single]
  simp only [Scan.brace?, Scan.diagnostic?, Option.toList_none, List.append_nil]
  exact (gives_emit (s := [Bytes.slash, Bytes.slash]) (t := []) rfl (by simp [bytes]) rfl
    (length_add_two before _ _) (by simp [bytes])).bind (gives_pure true _)

theorem length_sub_two (before : Bytes) (b c : UInt8) :
    (before ++ [b, c]).length.toUInt32 - 2 = before.length.toUInt32 := by
  rw [← length_add_two, UInt32.add_sub_cancel]

theorem gives_comment_block (s : Bytes) :
    Gives (At content before (Bytes.slash :: star :: s) found heads) (comment content normalize)
      true (Behind content before (readBlock s).2.2 found heads normalize
        (.blockComment (readBlock s).1 (readBlock s).2.1)) := by
  refine gives_here.bind (gives_peek2.bind ?_)
  refine gives_bump.bind (gives_bump.bind ((gives_skipBlock s).bind (gives_here.bind ?_)))
  have whole : before ++ [Bytes.slash] ++ [star]
        ++ ((readBlock s).1 ++ if (readBlock s).2.1 then [star, Bytes.slash] else [])
      = before ++ (Lexeme.blockComment (readBlock s).1 (readBlock s).2.1).bytes := by simp [bytes]
  rw [whole, Behind, followedBy_single]
  cases closed : (readBlock s).2.1 with
  | true =>
    simp only [Scan.brace?, Scan.diagnostic?, Option.toList_none, List.append_nil]
    refine (gives_emit (s := [Bytes.slash, star]) (t := [star, Bytes.slash]) rfl (by simp [bytes]) rfl
      (length_add_two before _ _) ?_).bind (gives_pure true _)
    have regroup : before ++ (Lexeme.blockComment (readBlock s).1 true).bytes
      = before ++ [Bytes.slash, star] ++ (readBlock s).1 ++ [star, Bytes.slash] := by simp [bytes]
    rw [regroup]
    exact length_sub_two _ _ _
  | false =>
    simp only [Scan.brace?, Option.toList_none, List.append_nil]
    refine (gives_emit (s := [Bytes.slash, star]) (t := []) rfl (by simp [bytes]) rfl
      (length_add_two before _ _) (by simp [bytes])).bind ((gives_note _).bind (gives_pure true _))

theorem gives_comment_none {rest : Bytes} (alone : ∀ c ∈ rest.head?, c ≠ Bytes.slash ∧ c ≠ star) :
    Gives (At content before (Bytes.slash :: rest) found heads) (comment content normalize) false
      (At content before (Bytes.slash :: rest) found heads) := by
  refine gives_here.bind (gives_peek2.bind ?_)
  cases rest with
  | nil => exact gives_pure false _
  | cons c rest =>
    obtain ⟨notSlash, notStar⟩ := alone c rfl
    dsimp only [List.head?_cons, Option.map_some]
    split
    · rename_i two
      cases two
      exact absurd rfl notSlash
    · rename_i two
      cases two
      exact absurd rfl notStar
    · exact gives_pure false _

theorem gives_brace {b : UInt8} {kind : BraceKind} :
    Gives (At content before (b :: after) found heads) (brace content kind) ()
      (At content (before ++ [b]) after
        { found with braces := found.braces ++ [⟨kind, before.length⟩] } heads) := by
  refine .of_known fun _ known => gives_here.bind ?_
  rw [toNat_length known.split known.short]
  exact (gives_note _).bind (gives_bump.bind (gives_pure () _))

/-- Behind a literal in quotes is behind the lexeme that is read there. -/
theorem behindLiteral_eq {quote : UInt8} (isQuote : quote = doubleQuote ∨ quote = apostrophe)
    (rest : Bytes) :
    BehindLiteral content (before ++ [quote]) before rest found heads quote (readQuoted quote rest)
      = Behind content before (read quote rest).2 found heads normalize (read quote rest).1 := by
  rcases isQuote with rfl | rfl
  · have double : ¬ (doubleQuote = apostrophe ∧ (readQuoted doubleQuote rest).2.1 = .newline) :=
      fun both => absurd both.1 (by decide)
    rw [BehindLiteral, if_neg double, read_doubleQuote, behind_of_not_isFound rfl, bytes,
      List.append_assoc, List.singleton_append]
  · by_cases unanswered : (readQuoted apostrophe rest).2.1 = .newline
    · rw [BehindLiteral, if_pos ⟨rfl, unanswered⟩, read_apostrophe_of_unanswered unanswered,
        behind_of_not_isFound rfl, bytes]
    · rw [BehindLiteral, if_neg (fun both => unanswered both.2), read_apostrophe_of_answered unanswered,
        behind_of_not_isFound rfl, bytes, List.append_assoc, List.singleton_append]

theorem gives_turn_quote {quote : UInt8} (isQuote : quote = doubleQuote ∨ quote = apostrophe)
    (rest : Bytes) :
    Gives (At content before (quote :: rest) found heads) (turn content normalize) ()
      (Behind content before (read quote rest).2 found heads normalize (read quote rest).1) := by
  have notSlash : quote ≠ Bytes.slash := by rcases isQuote with rfl | rfl <;> decide
  refine gives_peek.bind ?_
  rw [if_neg notSlash, if_pos isQuote, ← behindLiteral_eq isQuote]
  exact gives_skipQuoted isQuote rest

/-- A turn steps over a byte that opens nothing. -/
theorem gives_turn_other {b : UInt8} {rest : Bytes}
    (ordinary : b ∉ [doubleQuote, apostrophe, backtick, leftBrace, rightBrace])
    (alone : b = Bytes.slash → ∀ c ∈ rest.head?, c ≠ Bytes.slash ∧ c ≠ star) :
    Gives (At content before (b :: rest) found heads) (turn content normalize) ()
      (At content (before ++ [b]) rest found heads) := by
  simp only [List.mem_cons, List.not_mem_nil, or_false, not_or] at ordinary
  obtain ⟨double, single, back, left, right⟩ := ordinary
  refine gives_peek.bind ?_
  by_cases slash : b = Bytes.slash
  · subst slash
    rw [if_pos rfl]
    exact (gives_comment_none (alone rfl)).bind (gives_bump.bind (gives_pure () _))
  · rw [if_neg slash, if_neg (not_or.2 ⟨double, single⟩), if_neg back, if_neg left, if_neg right]
    exact gives_bump.bind (gives_pure () _)

/-- Behind a brace one brace more is found. -/
theorem behind_of_brace? {l : Lexeme} {brace : Brace}
    (isBrace : Scan.brace? (before.length, l) = some brace) :
    Behind content before after found heads normalize l
      = At content (before ++ l.bytes) after { found with braces := found.braces ++ [brace] } heads := by
  rw [Behind, followedBy_single, isBrace]
  cases l with
  | openBrace | closeBrace =>
    simp only [Scan.comment?, Scan.commentBody?, Scan.diagnostic?, Option.map_none, Option.toList_none,
      Option.toList_some, List.append_nil]
  | _ => cases isBrace

/-- **One turn reads one lexeme.** -/
theorem gives_turn (b : UInt8) (rest : Bytes) :
    Gives (At content before (b :: rest) found heads) (turn content normalize) ()
      (Behind content before (read b rest).2 found heads normalize (read b rest).1) := by
  by_cases ordinary : b ∈ [doubleQuote, apostrophe, backtick, leftBrace, rightBrace]
  · simp only [List.mem_cons, List.not_mem_nil, or_false] at ordinary
    rcases ordinary with rfl | rfl | rfl | rfl | rfl
    · exact gives_turn_quote (.inl rfl) rest
    · exact gives_turn_quote (.inr rfl) rest
    · rw [read_backtick, behind_of_not_isFound rfl, bytes, List.append_cons]
      exact gives_peek.bind (gives_bump.bind (gives_skipRaw rest))
    · exact behind_of_brace? (l := .openBrace) rfl ▸ gives_peek.bind gives_brace
    · exact behind_of_brace? (l := .closeBrace) rfl ▸ gives_peek.bind gives_brace
  · by_cases alone : b = Bytes.slash → ∀ c ∈ rest.head?, c ≠ Bytes.slash ∧ c ≠ star
    · rw [read_other ordinary alone, behind_of_not_isFound rfl]
      exact gives_turn_other ordinary alone
    · obtain ⟨rfl, body, rfl | rfl⟩ := opens_comment alone
      · exact gives_peek.bind ((gives_comment_line body).bind (gives_pure () _))
      · exact gives_peek.bind ((gives_comment_block body).bind (gives_pure () _))

theorem followedBy_assoc (s t u : Scan) :
    (s.followedBy t).followedBy u = s.followedBy (t.followedBy u) := by
  simp only [Scan.followedBy, List.append_assoc]

/-- What is found in a lexeme and in those behind it is found in all of them. -/
theorem followedBy_located (offset : Nat) (l : Lexeme) (ls : List Lexeme) (index : List Nat) :
    (found.followedBy (Scan.ofLocated normalize index [(offset, l)])).followedBy
        (Scan.ofLocated normalize index (located (offset + l.bytes.length) ls))
      = found.followedBy (Scan.ofLocated normalize index (located offset (l :: ls))) := by
  rw [followedBy_assoc, ← Scan.ofLocated_append, List.singleton_append, located]

/-- **The loop reads all lexemes**, and takes a turn for each of them. -/
theorem gives_loop (normalize : Bool) (s : Bytes) :
    Gives (At content before s found heads) (loop content normalize) ()
      (At content (before ++ s) []
        (found.followedBy
          (Scan.ofLocated normalize (lineIndex content) (located before.length (ofText s))))
        (heads ++ (starts before.length (ofText s) ++ [content.length.toUInt32]))) := by
  -- what is behind the cursor, found and recorded grows with each lexeme that is read
  fun_induction ofText s generalizing before found heads with
  | case1 =>
    refine .of_known fun _ known => ?_
    have all : before = content := by rw [known.split, List.append_nil]
    have nothing : found.followedBy (Scan.ofLocated normalize (lineIndex content) []) = found :=
      Scan.followedBy_nothing found
    rw [located, nothing, List.append_nil, all]
    exact .done (gives_reachHead.bind (gives_atEnd.bind (gives_pure _ _)))
  | case2 b rest ih =>
    have whole : before ++ b :: rest = before ++ (read b rest).1.bytes ++ (read b rest).2 := by
      rw [List.append_assoc, bytes_read]
    have heads' : heads ++ (starts before.length ((read b rest).1 :: ofText (read b rest).2)
          ++ [content.length.toUInt32])
        = heads ++ [before.length.toUInt32]
          ++ (starts (before ++ (read b rest).1.bytes).length (ofText (read b rest).2)
            ++ [content.length.toUInt32]) := by
      rw [List.length_append, List.append_assoc]
      rfl
    rw [heads', whole, ← followedBy_located, ← List.length_append]
    refine .next (gives_reachHead.bind (gives_atEnd.bind ?_)) ih
    exact (gives_turn b rest).bind (gives_pure none _)

end Turns

/-! ## The whole walk -/

section Whole

variable {content : Bytes}

theorem toUInt32_lt {m n : Nat} (order : m < n) (small : n < UInt32.size) : m.toUInt32 < n.toUInt32 := by
  have left : m.toUInt32.toNat = m := UInt32.toNat_ofNat_of_lt' (Nat.lt_trans order small)
  have right : n.toUInt32.toNat = n := UInt32.toNat_ofNat_of_lt' small
  rw [UInt32.lt_iff_toNat_lt, left, right]
  exact order

/-- No lexeme is empty, so each starts behind the one before it, and the text ends behind the last. -/
theorem starts_isChain (short : content.length < UInt32.size) :
    (starts 0 (ofText content) ++ [content.length.toUInt32]).IsChain (· < ·) := by
  refine List.Pairwise.isChain (List.pairwise_append.2 ⟨?_, List.pairwise_singleton _ _, ?_⟩)
  · refine List.pairwise_map.2 ((located_pairwise 0 (ofText content)).imp_of_mem ?_)
    intro x y _ member follows
    have nonempty := List.length_pos_iff.2 (bytes_ne_nil x.2)
    have inside := lt_of_mem_located member
    exact toUInt32_lt (by omega) (by omega)
  · intro o member stop last
    obtain ⟨x, lexeme, rfl⟩ := List.mem_map.1 member
    rw [List.mem_singleton.1 last]
    exact toUInt32_lt (lt_of_mem_located lexeme) short

/-- **A walk through a text that is short enough comes to its end and stays in the text**, and finds
what a scan finds. -/
theorem run_finished (normalize : Bool) (content : Bytes) (short : content.length < UInt32.size) :
    ∃ w, run content normalize = some w ∧ w.Finished content normalize := by
  have start : At content [] content Scan.nothing [] {} :=
    ⟨short, rfl, rfl, rfl, rfl, fun _ none => absurd none List.not_mem_nil⟩
  obtain ⟨w, walked, ended⟩ := gives_loop normalize content {} start
  have outcome : run content normalize = some w := by
    rw [run, if_pos short, walked]
    rfl
  have found : w.found = Scan.ofText normalize content := by
    rw [ended.found]
    simp only [Scan.followedBy, Scan.nothing, List.nil_append]
    rfl
  have heads : w.heads = starts 0 (ofText content) ++ [content.length.toUInt32] := ended.heads
  refine ⟨w, outcome, found, ended.acts, ?_, heads, ?_⟩
  · rw [heads]
    exact starts_isChain short
  · rw [ended.offset]
    exact UInt32.toNat_ofNat_of_lt' short

/-- A text with an apostrophe that is not answered, a backslash at the end of a line, and another at
the end of the text. -/
def stumbling : Bytes := utf8 "it's /**/ \x7b\n\"\\\n// x\n'\\"

theorem run_finished_stumbling :
    stumbling.length < UInt32.size ∧
    ∃ w, run stumbling false = some w ∧ w.Finished stumbling false ∧
      w.heads = [0, 1, 2, 3, 4, 5, 9, 10, 11, 12, 14, 15, 19, 20, 22] ∧
      w.found.comments.map (fun c => (c.start, c.stop)) = [(5, 9), (15, 19)] := by
  obtain ⟨w, walked, finished⟩ := run_finished false stumbling (by decide)
  refine ⟨by decide, w, walked, finished, finished.heads.trans (by decide +kernel), ?_⟩
  rw [finished.found]
  decide +kernel

end Whole

end Walk

end Marginalia
