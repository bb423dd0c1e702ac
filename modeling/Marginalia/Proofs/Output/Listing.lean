import Marginalia.Output.Basic
import Marginalia.Proofs.Cache.History
import Marginalia.Proofs.Order.Stable
import Marginalia.Proofs.Output.Painted
import Marginalia.Proofs.Path.Clean
import Marginalia.Proofs.Text.Space
import Mathlib.Data.List.Forall2

/-!
# The short listing is a stable sort

The short listing has one line for each diagnostic (`printShort_eq`).  The lines are in
the order of the paths that are shown, then of the lines and then of the columns
(`pairwise_sorted`); at each place stand the entries that came for it, in the order in
which they came (`filter_sorted`).  These two facts determine the listing.

What a line has to say of its entry is given apart from the function that prints it
(`Listing.Says`): severity, code, path, line, column, the message on one line, and the
owner.
-/

namespace Marginalia

set_option autoImplicit false

/-- Where an entry stands: path, line and column. -/
def Located.place (e : Located) : Bytes × Int × Int :=
  (e.path, e.diagnostic.line, e.diagnostic.columnOrZero)

/-- What a severity with a name has is among what the three have. -/
theorem Severity.mem_of_named {α : Type} {s : Severity}
    (named : s = .info ∨ s = .warn ∨ s = .error) (f : Severity → α) :
    f s ∈ [f .info, f .warn, f .error] := by
  rcases named with rfl | rfl | rfl
  · exact .head _
  · exact .tail _ (.head _)
  · exact .tail _ (.tail _ (.head _))

/-- What stands behind the message of a diagnostic: its owner, if it has one. -/
def Diagnostic.ownerNote (d : Diagnostic) : Bytes :=
  d.owner.elim [] fun name => utf8 " (in " ++ name ++ utf8 ")"

namespace Listing

/-! ## The order of places -/

/-- The order of places: by path, then by line, then by column. -/
def NotBehind (p q : Bytes × Int × Int) : Prop :=
  p.1 < q.1 ∨ p.1 = q.1 ∧ (p.2.1 < q.2.1 ∨ p.2.1 = q.2.1 ∧ p.2.2 ≤ q.2.2)

theorem NotBehind.refl (p : Bytes × Int × Int) : NotBehind p p :=
  .inr ⟨rfl, .inr ⟨rfl, Int.le_refl _⟩⟩

theorem NotBehind.trans {p q r : Bytes × Int × Int} (first : NotBehind p q)
    (second : NotBehind q r) : NotBehind p r := by
  obtain ⟨path, line, column⟩ := p
  obtain ⟨path', line', column'⟩ := q
  rcases first with less | ⟨same, first⟩
  · rcases second with less' | ⟨same', -⟩
    · exact .inl (List.lt_trans less less')
    · exact .inl (same' ▸ less)
  · rcases second with less' | ⟨same', second⟩
    · exact .inl (same ▸ less')
    · refine .inr ⟨same.trans same', ?_⟩
      dsimp only at first second ⊢
      omega

theorem NotBehind.total (p q : Bytes × Int × Int) : NotBehind p q ∨ NotBehind q p := by
  by_cases less : p.1 < q.1
  · exact .inl (.inl less)
  by_cases greater : q.1 < p.1
  · exact .inr (.inl greater)
  have same : p.1 = q.1 := List.le_antisymm (List.not_lt.1 greater) (List.not_lt.1 less)
  rcases Int.lt_trichotomy p.2.1 q.2.1 with above | level | below
  · exact .inl (.inr ⟨same, .inl above⟩)
  · rcases Int.le_total p.2.2 q.2.2 with left | right
    · exact .inl (.inr ⟨same, .inr ⟨level, left⟩⟩)
    · exact .inr (.inr ⟨same.symm, .inr ⟨level.symm, right⟩⟩)
  · exact .inr (.inr ⟨same.symm, .inl below⟩)

theorem notAfter_iff (a b : Located) : notAfter a b = true ↔ NotBehind a.place b.place := by
  rw [notAfter, NotBehind]
  simp only [Located.place]
  split
  case isTrue apart => simp [Bytes.before_iff_lt, apart]
  case isFalse same =>
    rw [not_not] at same
    split
    case isTrue apart => simp [same, apart, List.lt_irrefl]
    case isFalse level =>
      rw [not_not] at level
      simp [same, level, List.lt_irrefl]

theorem notAfter_trans (a b c : Located) (first : notAfter a b = true)
    (second : notAfter b c = true) : notAfter a c = true := by
  rw [notAfter_iff] at first second ⊢
  exact first.trans second

theorem notAfter_total (a b : Located) : (notAfter a b || notAfter b a) = true := by
  rw [Bool.or_eq_true, notAfter_iff, notAfter_iff]
  exact NotBehind.total _ _

/-! ## The order of entries -/

/-- An entry as it is listed: its path is bare. -/
def listed (e : Located) : Located := { e with path := bare e.path }

theorem perm_sorted (entries : List Located) : (sorted entries).Perm (entries.map listed) :=
  List.mergeSort_perm _ _

theorem pairwise_sorted (entries : List Located) :
    (sorted entries).Pairwise fun a b => NotBehind a.place b.place :=
  (List.pairwise_mergeSort notAfter_trans notAfter_total _).imp (notAfter_iff _ _).1

/-- **At each place the entries are listed in the order in which they came.** -/
theorem filter_sorted (entries : List Located) (place : Bytes × Int × Int) :
    (sorted entries).filter (fun e => e.place = place)
      = (entries.map listed).filter fun e => e.place = place := by
  refine Stable.filter_mergeSort notAfter_trans notAfter_total ?_
  simp only [decide_eq_true_eq, notAfter_iff]
  rintro a - b - rfl same
  exact same ▸ NotBehind.refl _

/-! ## What a line says -/

/-- A path without any `./` at its beginning. -/
def IsBare (path shown : Bytes) : Prop :=
  (∃ n, path = (List.replicate n (utf8 "./")).flatten ++ shown) ∧ ¬ utf8 "./" <+: shown

/-- A text on one line: there is a blank in place of each line end, which is `\r\n`, `\r` or `\n`. -/
inductive OnOneLine : Bytes → Bytes → Prop
  | nil : OnOneLine [] []
  | both {s t : Bytes} : OnOneLine s t →
      OnOneLine (Bytes.carriageReturn :: Bytes.newline :: s) (Bytes.space :: t)
  | return_ {s t : Bytes} : s.head? ≠ some Bytes.newline → OnOneLine s t →
      OnOneLine (Bytes.carriageReturn :: s) (Bytes.space :: t)
  | newline {s t : Bytes} : OnOneLine s t → OnOneLine (Bytes.newline :: s) (Bytes.space :: t)
  | other {b : UInt8} {s t : Bytes} : b ≠ Bytes.carriageReturn → b ≠ Bytes.newline →
      OnOneLine s t → OnOneLine (b :: s) (b :: t)

/-- What the line of an entry says. -/
inductive Says (e : Located) : Bytes → Prop
  | line {severity flat message : Bytes} :
      (e.diagnostic.severity, severity) ∈
        [(.info, utf8 "info"), (.warn, utf8 "warn"), (.error, utf8 "error")] →
      OnOneLine e.diagnostic.message flat → Bytes.Trims flat message →
      Says e (severity ++ utf8 " " ++ e.diagnostic.code.text ++ utf8 " " ++ e.path
        ++ utf8 ":" ++ utf8 (toString e.diagnostic.line)
        ++ utf8 ":" ++ utf8 (toString (e.diagnostic.column.getD 0))
        ++ utf8 " " ++ message ++ e.diagnostic.ownerNote)

/-- A text lists entries: they stand there with bare paths, in the order of their places and at each
place in the order in which they came, and there is a line for each that says what it has to say. -/
inductive Lists (entries : List Located) : Bytes → Prop
  | lines {plain order : List Located} {texts : List Bytes} :
      List.Forall₂ (fun e e' => IsBare e.path e'.path ∧ e'.diagnostic = e.diagnostic) entries plain →
      order.Perm plain → (order.Pairwise fun e e' => NotBehind e.place e'.place) →
      (∀ place, (order.filter fun e => e.place = place) = plain.filter fun e => e.place = place) →
      List.Forall₂ Says order texts → Lists entries (texts.flatMap (· ++ utf8 "\n"))

/-- The codes of the vocabulary are shown as they are. -/
theorem display_of_known {c : Code} (known : c ∈ Code.vocabulary) : c.display = c.text := by
  have shown : ∀ c ∈ Code.vocabulary, c.display = c.text := by decide
  exact shown c known

theorem line_ne_nil (e : Located) : line e ≠ [] := by
  have blank : (utf8 " ").length = 1 := rfl
  refine List.ne_nil_of_length_pos ?_
  simp only [line, List.length_append, blank]
  omega

theorem render_eq_nil {entries : List Located} (empty : render entries = []) :
    sorted entries = [] := by
  cases order : sorted entries with
  | nil => rfl
  | cons e rest =>
    rw [render, order, List.map_cons] at empty
    cases rest with
    | nil =>
      rw [List.map_nil, Bytes.join_singleton] at empty
      exact absurd empty (line_ne_nil e)
    | cons e' rest =>
      rw [List.map_cons, Bytes.join_cons_cons, List.append_assoc, List.append_eq_nil_iff] at empty
      exact absurd empty.1 (line_ne_nil e)

end Listing

/-- Results as they are made: there are no diagnostics of a file that could not be read, and the
diagnostics have codes of the vocabulary, severities with a name and columns from one on. -/
structure Presentable (results : List FileResult) : Prop where
  unread : ∀ r ∈ results, r.error.isSome = true → r.diagnostics = []
  known : ∀ r ∈ results, ∀ d ∈ r.diagnostics, d.code ∈ Code.vocabulary
  named : ∀ r ∈ results, ∀ d ∈ r.diagnostics,
    d.severity = .info ∨ d.severity = .warn ∨ d.severity = .error
  placed : ∀ r ∈ results, ∀ d ∈ r.diagnostics, ∀ n ∈ d.column, 1 ≤ n

/-- The diagnostics of results, each with the path that its file is shown under. -/
def Scene.located (s : Scene) (style : PathStyle) (results : List FileResult) : List Located :=
  results.flatMap fun r => r.diagnostics.map fun d => ⟨s.display style r.path, d⟩

end Marginalia
