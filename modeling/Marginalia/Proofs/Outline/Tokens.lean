import Marginalia.Outline.Token

/-!
# Tokens stand in order

The tokens of a text stand one behind the other, and the lead comment of a token
stands between it and the token before it (`spaced_tokens?`).  Comments are read
together with the tokens and handed to the next token, so this is shown first for
tokens and comments together (`inOrder_elementsFrom`).
-/

namespace Marginalia.Outline

set_option autoImplicit false

/-- Where a token begins, its lead comment included. -/
def Token.begins (t : Token) : Nat := t.lead.getD t.start

/-- Do tokens stand one behind the other, each with its lead comment in front of it, from an offset
on? -/
def Spaced : (low : Nat) → List Token → Prop
  | _, [] => True
  | low, t :: rest =>
    low ≤ t.begins ∧ t.begins ≤ t.start ∧ t.start ≤ t.stop ∧ Spaced t.stop rest

/-- Do tokens and comments stand one behind the other, from an offset on?  A semicolon that a comment
stands for has the offset of the comment. -/
def InOrder : (low : Nat) → List Element → Prop
  | _, [] => True
  | low, .token t _ :: rest => low ≤ t.start ∧ t.start ≤ t.stop ∧ InOrder t.stop rest
  | low, .remark c :: rest => low ≤ c.start ∧ InOrder c.start rest

theorem InOrder.mono {low low' : Nat} {es : List Element} (order : InOrder low es)
    (less : low' ≤ low) : InOrder low' es := by
  match es, order with
  | [], _ => trivial
  | .token _ _ :: _, ⟨starts, rest⟩ => exact ⟨Nat.le_trans less starts, rest⟩
  | .remark _ :: _, ⟨starts, rest⟩ => exact ⟨Nat.le_trans less starts, rest⟩

/-! ## Reading tokens and comments -/

theorem offset_le_pass (r : Reader) (cs : List Char) : r.offset ≤ (r.pass cs).offset :=
  Nat.le_add_right _ _

theorem offset_pass_singleton (r : Reader) (c : Char) :
    (r.pass [c]).offset = r.offset + c.utf8Size := by
  simp [Reader.pass]

theorem InOrder.of_pass {r : Reader} {cs : List Char} {es : List Element}
    (order : InOrder (r.pass cs).offset es) : InOrder r.offset es :=
  order.mono (offset_le_pass r cs)

/-- **Tokens and comments are read in order.** -/
theorem inOrder_elementsFrom {fuel : Nat} {r : Reader} {pending : Bool} {es : List Element}
    (read : elementsFrom fuel r pending = some es) : InOrder r.offset es := by
  fun_induction elementsFrom fuel r pending generalizing es
  -- what cannot be read
  case case1 | case5 | case6 | case9 => cases read
  -- the end of the text, where a semicolon may be missing
  case case2 fuel r pending _ _ =>
    cases pending with
    | false =>
      cases read
      exact ⟨Nat.le_refl _, Nat.le_refl _, trivial⟩
    | true =>
      cases read
      exact ⟨Nat.le_refl _, Nat.le_refl _, Nat.le_refl _, Nat.le_refl _, trivial⟩
  -- the end of a line, which stands for a semicolon
  case case3 fuel r pending c rest _ newline ih =>
    obtain ⟨es, later, rfl⟩ := Option.map_eq_some_iff.1 read
    rw [Bool.and_eq_true, beq_iff_eq] at newline
    have width : (r.pass [c]).offset = r.offset + 1 := by
      rw [offset_pass_singleton, newline.1]
      rfl
    exact ⟨Nat.le_refl _, Nat.le_add_right _ _, width ▸ ih later⟩
  -- a blank
  case case4 ih => exact (ih read).of_pass
  -- a comment over the end of a line, with the semicolon it stands for
  case case7 ih =>
    obtain ⟨es, later, rfl⟩ := Option.map_eq_some_iff.1 read
    exact ⟨Nat.le_refl _, Nat.le_refl _, Nat.le_refl _, (ih later).of_pass⟩
  -- any other comment
  case case8 ih =>
    obtain ⟨es, later, rfl⟩ := Option.map_eq_some_iff.1 read
    exact ⟨Nat.le_refl _, (ih later).of_pass⟩
  -- a token
  case case10 ih =>
    obtain ⟨es, later, rfl⟩ := Option.map_eq_some_iff.1 read
    exact ⟨Nat.le_refl _, offset_le_pass _ _, ih later⟩

/-! ## Lead comments -/

theorem mem_of_mem_sameLine {line : Nat} {remarks : List Remark} {c : Remark}
    (member : c ∈ sameLine line remarks) : c ∈ remarks := by
  fun_induction sameLine line remarks with
  | case1 => exact member
  | case2 _ _ _ _ ih => exact List.mem_cons_of_mem _ (ih member)
  | case3 => exact member

/-- A group of comments starts with a comment. -/
theorem start_lastGroup {group : Option (Nat × Nat)} {remarks : List Remark} {start last : Nat}
    (found : lastGroup group remarks = some (start, last)) :
    (∃ line, group = some (start, line)) ∨ ∃ c ∈ remarks, c.start = start := by
  fun_induction lastGroup group remarks with
  | case1 group => exact .inl ⟨last, found⟩
  | case2 c rest ih =>
    rcases ih found with ⟨line, here⟩ | ⟨d, member, starts⟩
    · cases here
      exact .inr ⟨c, List.mem_cons_self, rfl⟩
    · exact .inr ⟨d, List.mem_cons_of_mem _ member, starts⟩
  | case3 first line c rest ih =>
    rcases ih found with ⟨line', here⟩ | ⟨d, member, starts⟩
    · split at here
      · cases here
        exact .inl ⟨line, rfl⟩
      · cases here
        exact .inr ⟨c, List.mem_cons_self, rfl⟩
    · exact .inr ⟨d, List.mem_cons_of_mem _ member, starts⟩

/-- A lead comment is one of the comments before the token. -/
theorem exists_of_leadOf {before line : Nat} {remarks : List Remark} {lead : Nat}
    (found : leadOf before line remarks = some lead) : ∃ c ∈ remarks, c.start = lead := by
  simp only [leadOf] at found
  split at found
  next start last group =>
    split at found
    · cases found
      rcases start_lastGroup group with ⟨_, here⟩ | ⟨c, member, starts⟩
      · cases here
      · refine ⟨c, ?_, starts⟩
        split at member
        · exact member
        · split at member
          · exact mem_of_mem_sameLine member
          · exact member
    · cases found
  next => cases found

/-- Tokens keep their order when they get their lead comments. -/
theorem spaced_attach {low at_ before : Nat} {remarks : List Remark} {es : List Element}
    (order : InOrder at_ es) (behind : low ≤ at_)
    (between : ∀ c ∈ remarks, low ≤ c.start ∧ c.start ≤ at_) :
    Spaced low (attach before remarks es) := by
  induction es generalizing low at_ before remarks with
  | nil => trivial
  | cons e es ih =>
    cases e with
    | remark c =>
      obtain ⟨starts, order⟩ := order
      refine ih order (Nat.le_trans behind starts) fun d member => ?_
      rcases List.mem_cons.1 member with rfl | earlier
      · exact ⟨Nat.le_trans behind starts, Nat.le_refl _⟩
      · exact ⟨(between d earlier).1, Nat.le_trans (between d earlier).2 starts⟩
    | token t line =>
      obtain ⟨starts, ends, order⟩ := order
      have begins : low ≤ (leadOf before line remarks.reverse).getD t.start ∧
          (leadOf before line remarks.reverse).getD t.start ≤ t.start := by
        cases lead : leadOf before line remarks.reverse with
        | none => exact ⟨Nat.le_trans behind starts, Nat.le_refl _⟩
        | some l =>
          obtain ⟨c, member, rfl⟩ := exists_of_leadOf lead
          obtain ⟨above, below⟩ := between c (List.mem_reverse.1 member)
          exact ⟨above, Nat.le_trans below starts⟩
      exact ⟨begins.1, begins.2, ends, ih order (Nat.le_refl _) (by simp)⟩

/-- **The tokens of a text stand one behind the other**, each with its lead comment in front of it. -/
theorem spaced_tokens? {content : Bytes} {ts : List Token} (read : tokens? content = some ts) :
    Spaced 0 ts := by
  unfold tokens? at read
  split at read
  · cases read
  · extract_lets cs start at read
    split at read
    · cases read
    · obtain ⟨es, elements, rfl⟩ := Option.map_eq_some_iff.1 read
      exact spaced_attach (inOrder_elementsFrom elements) (Nat.zero_le _) (by simp)

end Marginalia.Outline
