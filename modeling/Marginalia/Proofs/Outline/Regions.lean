import Marginalia.Outline.Grammar
import Marginalia.Proofs.Outline.Tokens

/-!
# The regions of declarations stand in a line

The tokens of a file stand one behind the other, and a reader only takes tokens from
the front of what is left (`Parse.takes`).  So all that is read for a declaration lies
between the end of the token before it and the end of its last token, and a comment
in front of its first token lies there too (`Took.bounds`).

What is known of a rule of the grammar is where its regions lie, not how it reads:
between the last token read before it and the last token read by it, one behind the
other (`Rules.lined_topDecl`).  The rules for types, expressions and statements need
no lemmas of their own.  For the file it follows that its regions stand in a line
(`lined_ofText?`).
-/

namespace Marginalia.Outline

set_option autoImplicit false

/-! ## Regions in a line -/

/-- Do regions stand one behind the other between two offsets? -/
def Lined : (low high : Nat) → List Region → Prop
  | low, high, [] => low ≤ high
  | low, high, r :: rest => low ≤ r.start ∧ r.start ≤ r.stop ∧ Lined r.stop high rest

theorem Lined.append {low mid high : Nat} {rs ss : List Region} (first : Lined low mid rs)
    (second : Lined mid high ss) : Lined low high (rs ++ ss) := by
  induction rs generalizing low with
  | nil =>
    cases ss with
    | nil => exact Nat.le_trans first second
    | cons s rest => exact ⟨Nat.le_trans first second.1, second.2⟩
  | cons r rest ih => exact ⟨first.1, first.2.1, ih first.2.2⟩

theorem Lined.mono {low high low' high' : Nat} {rs : List Region} (line : Lined low high rs)
    (less : low' ≤ low) (more : high ≤ high') : Lined low' high' rs := by
  have first : Lined low' low [] := less
  have last : Lined high high' [] := more
  have all := (first.append line).append last
  rwa [List.nil_append, List.append_nil] at all

theorem Lined.singleton {low high : Nat} {r : Region} (starts : low ≤ r.start)
    (ends : r.start ≤ r.stop) (stops : r.stop ≤ high) : Lined low high [r] :=
  ⟨starts, ends, stops⟩

theorem Lined.start_le {low high : Nat} {rs : List Region} (line : Lined low high rs) {r : Region}
    (member : r ∈ rs) : low ≤ r.start := by
  induction rs generalizing low with
  | nil => cases member
  | cons s rest ih =>
    obtain ⟨starts, ends, line⟩ := line
    rcases List.mem_cons.1 member with rfl | later
    · exact starts
    · exact Nat.le_trans starts (Nat.le_trans ends (ih line later))

/-- Regions in a line end before the next one starts. -/
theorem Lined.pairwise {low high : Nat} {rs : List Region} (line : Lined low high rs) :
    rs.Pairwise fun r s => r.stop ≤ s.start := by
  induction rs generalizing low with
  | nil => exact .nil
  | cons r rest ih =>
    obtain ⟨-, -, line⟩ := line
    exact .cons (fun s member => line.start_le member) (ih line)

/-! ## Taking tokens -/

theorem Spaced.drop {low : Nat} {taken rest : List Token} (spaced : Spaced low (taken ++ rest)) :
    Spaced (stopAfter low taken) rest ∧ low ≤ stopAfter low taken := by
  induction taken generalizing low with
  | nil => exact ⟨spaced, Nat.le_refl _⟩
  | cons t taken ih =>
    obtain ⟨begins, starts, ends, spaced⟩ := spaced
    obtain ⟨spaced, later⟩ := ih spaced
    exact ⟨spaced, Nat.le_trans begins (Nat.le_trans starts (Nat.le_trans ends later))⟩

/-- Do the tokens that are left stand one behind the other, behind the last one read? -/
def Input.Ordered (s : Input) : Prop := Spaced s.stop s.tokens

namespace Parse

variable {α β : Type} {p : Parse α} {f : α → Parse β} {s s' s'' : Input} {a : α} {b : β} {t : Token}

/-- Whatever is read, the tokens that are left stand in order, and the end of the last token read moves
on. -/
theorem ordered_of_run (ran : p.run s = some (a, s')) (ordered : s.Ordered) :
    s'.Ordered ∧ s.stop ≤ s'.stop := by
  obtain ⟨taken, tokens, stop⟩ := p.takes ran
  rw [Input.Ordered, tokens] at ordered
  rw [Input.Ordered, stop]
  exact ordered.drop

theorem run_bind_eq_some : (p >>= f).run s = some (b, s'') ↔
    ∃ a s', p.run s = some (a, s') ∧ (f a).run s' = some (b, s'') := by
  refine Option.bind_eq_some_iff.trans ⟨?_, ?_⟩
  · rintro ⟨⟨a, s'⟩, first, second⟩
    exact ⟨a, s', first, second⟩
  · rintro ⟨a, s', first, second⟩
    exact ⟨(a, s'), first, second⟩

/-- A token is taken from the front. -/
structure Took (s : Input) (t : Token) (s' : Input) : Prop where
  tokens : s.tokens = t :: s'.tokens
  stop : s'.stop = t.stop

/-- A token that is taken stands behind what was read before, and so does its lead comment. -/
theorem Took.bounds (took : Took s t s') (ordered : s.Ordered) :
    s.stop ≤ t.begins ∧ t.begins ≤ t.start ∧ t.start ≤ s'.stop := by
  rw [Input.Ordered, took.tokens] at ordered
  rw [took.stop]
  exact ⟨ordered.1, ordered.2.1, ordered.2.2.1⟩

theorem took_next (ran : next.run s = some (t, s')) : Took s t s' := by
  match s, ran with
  | ⟨_ :: _, _, _⟩, rfl => exact ⟨rfl, rfl⟩

theorem took_keyword {k : String} (ran : (keyword k).run s = some (t, s')) : Took s t s' := by
  obtain ⟨here, s₁, peeked, ran⟩ := run_bind_eq_some.1 ran
  cases peeked
  split at ran
  · exact took_next ran
  · cases ran

theorem took_sign {k : String} (ran : (sign k).run s = some (t, s')) : Took s t s' := by
  obtain ⟨here, s₁, peeked, ran⟩ := run_bind_eq_some.1 ran
  cases peeked
  split at ran
  · exact took_next ran
  · cases ran

theorem took_name {text : Bytes} (ran : name.run s = some (text, s')) : ∃ t, Took s t s' := by
  obtain ⟨kind, s₁, peeked, ran⟩ := run_bind_eq_some.1 ran
  cases peeked
  split at ran
  · obtain ⟨t, s₂, taken, done⟩ := run_bind_eq_some.1 ran
    cases done
    exact ⟨t, took_next taken⟩
  · cases ran

/-- If each item gives regions in a line, so do the items that are repeated. -/
theorem lined_whileFrom {more : Kind → Bool} {item : Parse α} {regionsOf : α → List Region}
    (each : ∀ {s s' : Input} {a : α}, item.run s = some (a, s') → s.Ordered →
      Lined s.stop s'.stop (regionsOf a))
    {n : Nat} {as : List α} (ran : (whileFrom more item n).run s = some (as, s'))
    (ordered : s.Ordered) : Lined s.stop s'.stop (as.flatMap regionsOf) := by
  induction n generalizing s as with
  | zero => cases ran
  | succ n ih =>
    obtain ⟨kind, s₁, peeked, ran⟩ := run_bind_eq_some.1 ran
    cases peeked
    split at ran
    · obtain ⟨a, s₂, first, ran⟩ := run_bind_eq_some.1 ran
      obtain ⟨rest, s₃, later, done⟩ := run_bind_eq_some.1 ran
      cases done
      rw [List.flatMap_cons]
      exact (each first ordered).append (ih later (ordered_of_run first ordered).1)
    · cases ran
      exact Nat.le_refl _

theorem lined_many {more : Kind → Bool} {item : Parse α} {regionsOf : α → List Region}
    (each : ∀ {s s' : Input} {a : α}, item.run s = some (a, s') → s.Ordered →
      Lined s.stop s'.stop (regionsOf a))
    {as : List α} (ran : (many more item).run s = some (as, s')) (ordered : s.Ordered) :
    Lined s.stop s'.stop (as.flatMap regionsOf) := by
  obtain ⟨_, _, here, ran⟩ := run_bind_eq_some.1 ran
  cases here
  exact lined_whileFrom each ran ordered

end Parse

/-! ## Declarations -/

namespace Rules

open Parse

variable {r : Rules} {s s' : Input}

/-- The region of a type in a group. -/
def ownRegion (spec : TypeSpec) : Region := ⟨spec.name, spec.doc.getD spec.start, spec.stop⟩

/-- A type stands behind what was read before, and behind the comment in front of it. -/
theorem bounds_typeSpec {doc : Option Nat} {spec : TypeSpec}
    (ran : (r.typeSpec doc).run s = some (spec, s')) (ordered : s.Ordered) :
    ∃ t, s.tokens.head? = some t ∧ spec.doc = doc ∧ spec.start = t.start ∧ s.stop ≤ t.begins ∧
      t.begins ≤ t.start ∧ t.start ≤ spec.stop ∧ spec.stop ≤ s'.stop := by
  rw [typeSpec] at ran
  simp only [run_bind_eq_some] at ran
  obtain ⟨head, _, peeked, text, s₁, named, _, s₂, body, before, _, here, _, s₃, ended, done⟩ := ran
  cases peeked
  cases here
  cases done
  obtain ⟨t, took⟩ := took_name named
  obtain ⟨begins, starts, ends⟩ := took.bounds ordered
  have ordered₁ := (ordered_of_run named ordered).1
  obtain ⟨ordered₂, later₂⟩ := ordered_of_run body ordered₁
  have later₃ := (ordered_of_run ended ordered₂).2
  have first : s.tokens.head? = some t := by rw [took.tokens, List.head?_cons]
  have start : (s.tokens.headD ⟨.eof, 0, 0, none⟩).start = t.start := by
    rw [took.tokens, List.headD_cons]
  exact ⟨t, first, rfl, start, begins, starts, Nat.le_trans ends later₂, later₃⟩

/-- The region of a type in a group begins with the comment in front of it. -/
theorem lined_typeSpec {spec : TypeSpec}
    (ran : (here >>= fun t => r.typeSpec t.lead).run s = some (spec, s')) (ordered : s.Ordered) :
    Lined s.stop s'.stop [ownRegion spec] := by
  obtain ⟨head, _, peeked, ran⟩ := run_bind_eq_some.1 ran
  cases peeked
  obtain ⟨t, first, doc, start, begins, starts, ends, stops⟩ := bounds_typeSpec ran ordered
  have start_eq : (ownRegion spec).start = t.begins := by
    rw [ownRegion, doc, start, Token.begins, List.headD_eq_head?_getD, first, Option.getD_some]
  refine .singleton ?_ ?_ stops
  · rw [start_eq]
    exact begins
  · rw [start_eq]
    exact Nat.le_trans starts ends

/-- The parts of a declaration of types: one type, which has no comment of its own, or a group of types
in parentheses. -/
theorem parts_cases {specs : List TypeSpec} {close : Option Nat}
    (ran : (parts r.typeSpec).run s = some ((specs, close), s')) (ordered : s.Ordered) :
    (∃ spec, specs = [spec] ∧ close = none ∧ spec.doc = none ∧
      s.stop ≤ spec.stop ∧ spec.stop ≤ s'.stop) ∨
    ∃ stop, close = some stop ∧ Lined s.stop stop (specs.map ownRegion) ∧ stop ≤ s'.stop := by
  rw [parts] at ran
  obtain ⟨opened, s₁, sign, ran⟩ := run_bind_eq_some.1 ran
  obtain ⟨ordered₁, later₁⟩ := ordered_of_run sign ordered
  split at ran
  · simp only [run_bind_eq_some] at ran
    obtain ⟨ps, s₂, group, t, s₃, closing, _, s₄, ended, done⟩ := ran
    cases done
    obtain ⟨ordered₂, later₂⟩ := ordered_of_run group ordered₁
    obtain ⟨ordered₃, later₃⟩ := ordered_of_run closing ordered₂
    have line : Lined s₁.stop s₂.stop (specs.flatMap fun spec => [ownRegion spec]) :=
      lined_many lined_typeSpec group ordered₁
    rw [← List.map_eq_flatMap] at line
    have stop := (took_sign closing).stop
    refine .inr ⟨t.stop, rfl, line.mono later₁ (stop ▸ later₃), ?_⟩
    exact stop ▸ (ordered_of_run ended ordered₃).2
  · obtain ⟨spec, s₂, only, done⟩ := run_bind_eq_some.1 ran
    cases done
    obtain ⟨t, -, doc, -, begins, starts, ends, stops⟩ := bounds_typeSpec only ordered₁
    refine .inl ⟨spec, rfl, rfl, doc, ?_, stops⟩
    omega

theorem lined_typeDecl {d : TopDecl} (ran : r.typeDecl.run s = some (d, s'))
    (ordered : s.Ordered) : Lined s.stop s'.stop d.regions := by
  rw [typeDecl] at ran
  simp only [run_bind_eq_some] at ran
  obtain ⟨t, s₁, took, ⟨specs, close⟩, s₂, read, done⟩ := ran
  cases done
  obtain ⟨begins, starts, ends⟩ := (took_keyword took).bounds ordered
  have ordered₁ := (ordered_of_run took ordered).1
  have opens := Nat.le_trans starts ends
  rcases parts_cases read ordered₁ with ⟨spec, rfl, rfl, doc, ends', stops⟩ | ⟨high, rfl, line, stops⟩
  · refine .singleton ?_ ?_ stops
    · rw [doc]
      exact begins
    · rw [doc]
      exact Nat.le_trans opens ends'
  · match specs with
    | [] => exact line.mono (Nat.le_trans begins opens) stops
    | [spec] =>
      -- A type alone in parentheses owns the whole declaration, but from its own comment if it has one.
      obtain ⟨after, ends', below⟩ := line
      cases doc : spec.doc with
      | none =>
        refine .singleton ?_ ?_ stops
        · rw [doc]
          exact begins
        · rw [doc]
          exact Nat.le_trans opens (Nat.le_trans after (Nat.le_trans ends' below))
      | some start =>
        rw [ownRegion, doc] at after ends'
        refine .singleton ?_ ?_ stops
        · rw [doc]
          exact Nat.le_trans begins (Nat.le_trans opens after)
        · rw [doc]
          exact Nat.le_trans ends' below
    | spec :: spec' :: more => exact line.mono (Nat.le_trans begins opens) stops

/-- The body of a function ends behind its head. -/
theorem bounds_funcBody {stop : Nat} (ran : r.funcBody.run s = some (stop, s'))
    (ordered : s.Ordered) : s.stop ≤ stop ∧ stop ≤ s'.stop := by
  rw [funcBody] at ran
  obtain ⟨braced, s₁, peeked, ran⟩ := run_bind_eq_some.1 ran
  obtain ⟨ordered₁, later₁⟩ := ordered_of_run peeked ordered
  split at ran
  · simp only [run_bind_eq_some] at ran
    obtain ⟨_, s₂, block, _, _, here, _, s₃, ended, done⟩ := ran
    cases here
    cases done
    obtain ⟨ordered₂, later₂⟩ := ordered_of_run block ordered₁
    exact ⟨Nat.le_trans later₁ later₂, (ordered_of_run ended ordered₂).2⟩
  · simp only [run_bind_eq_some] at ran
    obtain ⟨_, _, here, _, s₂, ended, braced, s₃, peeked', done⟩ := ran
    cases here
    split at done
    · cases done
    · cases done
      obtain ⟨ordered₂, later₂⟩ := ordered_of_run ended ordered₁
      exact ⟨later₁, Nat.le_trans later₂ (ordered_of_run peeked' ordered₂).2⟩

theorem lined_funcDecl {d : TopDecl} (ran : r.funcDecl.run s = some (d, s'))
    (ordered : s.Ordered) : Lined s.stop s'.stop d.regions := by
  rw [funcDecl] at ran
  simp only [run_bind_eq_some] at ran
  obtain ⟨t, s₁, took, ⟨receiver, text⟩, s₂, head, stop, s₃, body, done⟩ := ran
  cases done
  obtain ⟨begins, starts, ends⟩ := (took_keyword took).bounds ordered
  obtain ⟨ordered₁, -⟩ := ordered_of_run took ordered
  obtain ⟨ordered₂, later₂⟩ := ordered_of_run head ordered₁
  obtain ⟨later₃, stops⟩ := bounds_funcBody body ordered₂
  refine .singleton begins ?_ stops
  exact Nat.le_trans (Nat.le_trans starts ends) (Nat.le_trans later₂ later₃)

/-- A declaration that owns nothing. -/
theorem lined_of_regions_nil {d : TopDecl} {p : Parse TopDecl} (ran : p.run s = some (d, s'))
    (ordered : s.Ordered) (nothing : d.regions = []) : Lined s.stop s'.stop d.regions := by
  rw [nothing]
  exact (ordered_of_run ran ordered).2

theorem lined_importDecl {d : TopDecl} (ran : importDecl.run s = some (d, s'))
    (ordered : s.Ordered) : Lined s.stop s'.stop d.regions := by
  refine lined_of_regions_nil ran ordered ?_
  rw [importDecl] at ran
  simp only [run_bind_eq_some] at ran
  obtain ⟨_, _, -, _, _, -, done⟩ := ran
  cases done
  rfl

/-- The regions of a declaration lie between the tokens before it and those after it. -/
theorem lined_topDecl {d : TopDecl} (ran : r.topDecl.run s = some (d, s'))
    (ordered : s.Ordered) : Lined s.stop s'.stop d.regions := by
  have whole := ran
  rw [topDecl] at ran
  obtain ⟨kind, s₁, peeked, ran⟩ := run_bind_eq_some.1 ran
  cases peeked
  split at ran
  · exact lined_funcDecl ran ordered
  · exact lined_typeDecl ran ordered
  · refine lined_of_regions_nil whole ordered ?_
    split at ran
    · obtain ⟨_, _, -, done⟩ := run_bind_eq_some.1 ran
      cases done
      rfl
    · cases ran
  · cases ran

/-- The regions of the declarations of a file stand in a line. -/
theorem lined_file {decls : List TopDecl} (ran : r.file.run s = some (decls, s'))
    (ordered : s.Ordered) : Lined s.stop s'.stop (regions decls) := by
  rw [file] at ran
  simp only [run_bind_eq_some] at ran
  obtain ⟨_, s₁, package, _, s₂, named, _, s₃, ended, imports, s₄, above, decls, s₅, below, done⟩ := ran
  cases done
  obtain ⟨ordered₁, later₁⟩ := ordered_of_run package ordered
  obtain ⟨ordered₂, later₂⟩ := ordered_of_run named ordered₁
  obtain ⟨ordered₃, later₃⟩ := ordered_of_run ended ordered₂
  obtain ⟨ordered₄, -⟩ := ordered_of_run above ordered₃
  rw [regions, List.flatMap_append]
  have head := Nat.le_trans later₁ (Nat.le_trans later₂ later₃)
  have first := lined_many lined_importDecl above ordered₃
  exact (first.mono head (Nat.le_refl _)).append (lined_many lined_topDecl below ordered₄)

end Rules

/-- **The regions of a file stand in a line**: in the order of the declarations, each behind the one
before it. -/
theorem lined_ofText? {content : Bytes} {decls : List TopDecl}
    (read : ofText? content = some decls) : ∃ high, Lined 0 high (regions decls) := by
  obtain ⟨ts, tokens, read⟩ := Option.bind_eq_some_iff.1 read
  obtain ⟨⟨decls, s'⟩, ran, done⟩ := Option.bind_eq_some_iff.1 read
  cases done
  exact ⟨s'.stop, Rules.lined_file ran (spaced_tokens? tokens)⟩

end Marginalia.Outline
