import Marginalia.Proofs.Order.Groups
import Marginalia.Proofs.Output.Listing
import Marginalia.Proofs.Text.Lines
import Marginalia.Proofs.Text.Space

/-!
# The lines of the short listing

The short listing is a stable sort of its entries (`StableSort`), printed with one line
for each (`lines_render`).  Lines are neither split nor run together, whatever the
messages are: a message is put on one line, and nothing else that is printed has a line
break if the paths, the codes and the owners have none (`break_notMem_line`).

A stable sort is known from the entries of each place (`StableSort.unique`).  So the
listing stays the same when the entries are put in another order, as long as those of one
place keep theirs (`render_of_sameByKey`).
-/

namespace Marginalia

set_option autoImplicit false

/-- The byte is in no part of an entry but perhaps in its message. -/
structure Located.Lacks (e : Located) (b : UInt8) : Prop where
  path : b ∉ e.path
  code : b ∉ e.diagnostic.code.text
  owner : ∀ name ∈ e.diagnostic.owner, b ∉ name

/-- The bytes of a number are visible. -/
theorem Decimal.lt_of_mem_int {n : Int} {b : UInt8} (member : b ∈ Decimal.int n) : 32 < b.toNat := by
  have digits : ∀ {n : Nat}, b ∈ Decimal.nat n → 32 < b.toNat := by
    intro n member
    have visible : (utf8 "0123456789").all (32 < ·.toNat) = true := by decide
    exact of_decide_eq_true (List.all_eq_true.1 visible b (Decimal.digit_of_mem_nat member))
  cases n with
  | ofNat n => exact digits member
  | negSucc n =>
    rcases List.mem_cons.1 member with rfl | member
    · decide
    · exact digits member

/-- A byte that ends a line: the line ends are `\n`, `\r` and `\r\n`. -/
def IsBreak (b : UInt8) : Prop := b = Bytes.newline ∨ b = Bytes.carriageReturn

namespace IsBreak

variable {b : UInt8}

theorem notMem {text : Bytes} (isBreak : IsBreak b) (newline : Bytes.newline ∉ text)
    (return_ : Bytes.carriageReturn ∉ text) : b ∉ text := by
  rcases isBreak with rfl | rfl
  · exact newline
  · exact return_

theorem notMem_int (isBreak : IsBreak b) (n : Int) : b ∉ Decimal.int n := by
  refine isBreak.notMem ?_ ?_
  · intro member
    exact absurd (Decimal.lt_of_mem_int member) (by decide)
  · intro member
    exact absurd (Decimal.lt_of_mem_int member) (by decide)

theorem notMem_name (isBreak : IsBreak b) (s : Severity) : b ∉ s.name := by
  rw [Severity.name]
  split
  case isTrue => exact isBreak.notMem (by decide) (by decide)
  split
  case isTrue => exact isBreak.notMem (by decide) (by decide)
  split
  case isTrue => exact isBreak.notMem (by decide) (by decide)
  case isFalse => exact isBreak.notMem (by decide) (by decide)

theorem notMem_display (isBreak : IsBreak b) {c : Code} (absent : b ∉ c.text) : b ∉ c.display := by
  rw [Code.display]
  split
  case isTrue => exact isBreak.notMem (by decide) (by decide)
  case isFalse => exact absent

end IsBreak

namespace Listing

variable {entries order : List Located} {b : UInt8}

/-! ## One line for an entry -/

/-- **A message is put on one line.** -/
theorem break_notMem_oneLine (isBreak : IsBreak b) (message : Bytes) : b ∉ oneLine message := by
  have other : b ≠ Bytes.space := by
    rcases isBreak with rfl | rfl
    · decide
    · decide
  fun_induction oneLine message with
  | case1 rest ih => simpa [other] using ih
  | case2 rest _ ih => simpa [other] using ih
  | case3 rest ih => simpa [other] using ih
  | case4 a rest _ notReturn notNewline ih =>
    have apart : b ≠ a := by
      rintro rfl
      rcases isBreak with rfl | rfl
      · exact notNewline rfl
      · exact notReturn rfl
    simpa [apart] using ih
  | case5 => simp

/-- The line of an entry has a line break only if its path, its code or its owner has one. -/
theorem break_notMem_line (isBreak : IsBreak b) {e : Located} (lacks : e.Lacks b) :
    b ∉ line e := by
  have severity := isBreak.notMem_name e.diagnostic.severity
  have code := isBreak.notMem_display lacks.code
  have row := isBreak.notMem_int e.diagnostic.line
  have column := isBreak.notMem_int e.diagnostic.columnOrZero
  have message : b ∉ Bytes.trim (oneLine e.diagnostic.message) := by
    intro member
    exact break_notMem_oneLine isBreak _ ((Bytes.trim_isInfix _).subset member)
  have blank : b ∉ utf8 " " := isBreak.notMem (by decide) (by decide)
  have colon : b ∉ utf8 ":" := isBreak.notMem (by decide) (by decide)
  simp only [line, List.mem_append, not_or, severity, code, lacks.path, row, column, message, blank,
    colon, not_false_eq_true, and_self, true_and]
  split
  case h_1 name named =>
    have before : b ∉ utf8 " (in " := isBreak.notMem (by decide) (by decide)
    have behind : b ∉ utf8 ")" := isBreak.notMem (by decide) (by decide)
    simp only [List.mem_append, not_or]
    exact ⟨⟨before, lacks.owner name named⟩, behind⟩
  case h_2 => exact List.not_mem_nil

theorem bare_suffix (path : Bytes) : bare path <:+ path := by
  fun_induction bare path with
  | case1 rest ih => exact ih.trans ((List.suffix_cons _ _).trans (List.suffix_cons _ _))
  | case2 path _ => exact List.suffix_refl path

theorem lacks_listed {e : Located} (lacks : e.Lacks b) : (listed e).Lacks b where
  path member := lacks.path ((bare_suffix e.path).subset member)
  code := lacks.code
  owner := lacks.owner

theorem lacks_of_mem_sorted (lacks : ∀ e ∈ entries, e.Lacks b) : ∀ e ∈ sorted entries, e.Lacks b := by
  intro e member
  obtain ⟨e', given, rfl⟩ := List.mem_map.1 ((perm_sorted entries).mem_iff.1 member)
  exact lacks_listed (lacks e' given)

/-! ## The lines of the listing -/

/-- The lines of a listing, of which an empty text has none. -/
def linesOf (text : Bytes) : List Bytes := if text = [] then [] else text.lines

theorem lines_render (unbroken : ∀ e ∈ entries, e.Lacks Bytes.newline) :
    linesOf (render entries) = (sorted entries).map line := by
  rw [linesOf]
  split
  case isTrue empty => rw [render_eq_nil empty, List.map_nil]
  case isFalse filled =>
    refine Bytes.splitAtByte_join ?_ ?_
    · intro none
      rw [render, none] at filled
      exact filled rfl
    · intro l member
      obtain ⟨e, among, rfl⟩ := List.mem_map.1 member
      exact break_notMem_line (.inl rfl) (lacks_of_mem_sorted unbroken e among)

/-- Nothing that is printed has a carriage return, so that other ways to count lines agree. -/
theorem return_notMem_render (lacks : ∀ e ∈ entries, e.Lacks Bytes.carriageReturn) :
    Bytes.carriageReturn ∉ render entries := by
  refine Bytes.notMem_join (by decide) fun l member => ?_
  obtain ⟨e, among, rfl⟩ := List.mem_map.1 member
  exact break_notMem_line (.inr rfl) (lacks_of_mem_sorted lacks e among)

/-! ## Stable sorts -/

theorem NotBehind.antisymm {p q : Bytes × Int × Int} (first : NotBehind p q)
    (second : NotBehind q p) : p = q := by
  obtain ⟨path, line, column⟩ := p
  obtain ⟨path', line', column'⟩ := q
  simp only [NotBehind] at first second
  rcases first with less | ⟨same, first⟩
  · rcases second with greater | ⟨same, -⟩
    · exact absurd greater (List.lt_asymm less)
    · exact absurd (same ▸ less) (List.lt_irrefl _)
  · rcases second with greater | ⟨-, second⟩
    · exact absurd (same ▸ greater) (List.lt_irrefl _)
    · obtain ⟨rfl, rfl⟩ : line = line' ∧ column = column' := by omega
      rw [same]

/-- A stable sort of entries by path, line and column: the entries of each place are the same, in the
same order. -/
structure StableSort (entries order : List Located) : Prop where
  sorted : order.Pairwise fun e e' => NotBehind e.place e'.place
  stable : SameByKey Located.place order entries

theorem stableSort_sorted (entries : List Located) :
    StableSort (entries.map listed) (sorted entries) where
  sorted := pairwise_sorted entries
  stable := filter_sorted entries

/-- **There is one stable sort.** -/
theorem StableSort.unique {order' : List Located} (first : StableSort entries order)
    (second : StableSort entries order') : order = order' :=
  (first.stable.trans second.stable.symm).eq_of_pairwise (fun _ _ => NotBehind.antisymm) first.sorted
    second.sorted

/-- Where an entry is listed: its bare path, its line and its column, an absent one as zero. -/
def placeListed (e : Located) : Bytes × Int × Int :=
  (bare e.path, e.diagnostic.line, e.diagnostic.columnOrZero)

/-- Entries in another order have the same listing if those of each place keep their order. -/
theorem render_of_sameByKey {entries' : List Located} (same : SameByKey placeListed entries' entries) :
    render entries' = render entries := by
  have sort := stableSort_sorted entries'
  have listings : SameByKey Located.place (entries'.map listed) (entries.map listed) :=
    SameByKey.map (f := listed) same
  have order : sorted entries' = sorted entries :=
    StableSort.unique ⟨sort.sorted, sort.stable.trans listings⟩ (stableSort_sorted entries)
  rw [render, render, order]

/-- **The short listing is a stable sort with one line for each entry.** -/
theorem render_stable (entries : List Located) (unbroken : ∀ e ∈ entries, e.Lacks Bytes.newline) :
    (∃ order, StableSort (entries.map listed) order ∧
      (∀ order', StableSort (entries.map listed) order' → order' = order) ∧
      order.length = entries.length ∧ linesOf (render entries) = order.map line) ∧
    ((∀ e ∈ entries, e.Lacks Bytes.carriageReturn) → Bytes.carriageReturn ∉ render entries) ∧
    ∀ entries', SameByKey placeListed entries' entries → render entries' = render entries := by
  refine ⟨⟨sorted entries, stableSort_sorted entries, ?_, ?_, lines_render unbroken⟩,
    return_notMem_render, fun _ => render_of_sameByKey⟩
  · exact fun _ sort => sort.unique (stableSort_sorted entries)
  · rw [(perm_sorted entries).length_eq, List.length_map]

/-- Two entries for one place, of which the first has its path in another spelling, and one that is
listed before them. -/
def tiedEntries : List Located :=
  [{ path := utf8 "./b.ts"
     diagnostic :=
       { Diagnostic.ofCode .emptyReason 2 (utf8 " first\r\nreason\n") with column := some 5 } },
   { path := utf8 "b.ts"
     diagnostic :=
       { Diagnostic.ofCode .emptyReason 2 (utf8 "second\rreason") with column := some 5 } },
   { path := utf8 "././a.ts"
     diagnostic :=
       { Diagnostic.ofCode .emptyExamples 3 (utf8 "no\n\nexamples") with
         owner := some (utf8 "parse") } }]

/-- The same entries with the last one in front. -/
def tiedReordered : List Located := [tiedEntries[2], tiedEntries[0], tiedEntries[1]]

theorem sameByKey_tied : SameByKey placeListed tiedReordered tiedEntries := by
  intro place
  by_cases first : place = (utf8 "a.ts", 3, 0)
  · subst first
    decide
  by_cases second : place = (utf8 "b.ts", 2, 5)
  · subst second
    decide
  have places : ∀ e ∈ tiedEntries,
      placeListed e = (utf8 "a.ts", 3, 0) ∨ placeListed e = (utf8 "b.ts", 2, 5) := by decide
  have others : ∀ e ∈ tiedEntries, ¬ decide (placeListed e = place) = true := by
    intro e member here
    rw [decide_eq_true_eq] at here
    rcases places e member with at_ | at_
    · exact first (here.symm.trans at_)
    · exact second (here.symm.trans at_)
  have given : ∀ e ∈ tiedReordered, e ∈ tiedEntries := by decide
  rw [List.filter_eq_nil_iff.2 others,
    List.filter_eq_nil_iff.2 fun e member => others e (given e member)]

theorem render_stable_tied :
    (∀ e ∈ tiedEntries, e.Lacks Bytes.newline) ∧
      linesOf (render tiedEntries) =
        [utf8 "info EXAMPLE_EMPTY_BLOCK a.ts:3:0 no  examples (in parse)",
         utf8 "warn TECHDEBT_EMPTY_REASON b.ts:2:5 first reason",
         utf8 "warn TECHDEBT_EMPTY_REASON b.ts:2:5 second reason"] ∧
      SameByKey placeListed tiedReordered tiedEntries ∧
      render tiedReordered = render tiedEntries := by
  have unbroken : ∀ e ∈ tiedEntries, e.Lacks Bytes.newline := by
    rw [tiedEntries, List.forall_mem_cons, List.forall_mem_cons, List.forall_mem_singleton]
    exact ⟨⟨by decide, by decide, by decide⟩, ⟨by decide, by decide, by decide⟩,
      ⟨by decide, by decide, by decide⟩⟩
  have sort : StableSort (tiedEntries.map listed) (tiedReordered.map listed) :=
    { sorted := by
        simp only [tiedReordered, List.map_cons, List.map_nil, List.pairwise_cons]
        simp only [← notAfter_iff]
        decide
      stable := SameByKey.map (f := listed) sameByKey_tied }
  obtain ⟨⟨order, -, unique, -, lines⟩, -, reordered⟩ := render_stable tiedEntries unbroken
  refine ⟨unbroken, ?_, sameByKey_tied, reordered tiedReordered sameByKey_tied⟩
  rw [lines, ← unique _ sort]
  decide +kernel

end Listing

end Marginalia
