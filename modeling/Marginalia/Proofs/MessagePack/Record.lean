import Marginalia.MessagePack.Record
import Marginalia.Proofs.MessagePack.Wire

/-!
# Written records are read back

A record is written as a map from the names of its fields, and a field that is
missing is left out.  What is read for a field is what was written for its name,
or nothing (`field_written_cons`).  So a record is kept by writing and reading
(`Keeps`) as soon as each of its fields is: texts shorter than four gibibytes,
integers of 64 bits, severities with a name, and lists of what is kept.
-/

namespace Marginalia

set_option autoImplicit false

/-- Different literals have different bytes. -/
theorem utf8_inj {s t : String} : utf8 s = utf8 t ↔ s = t := by
  constructor
  · intro same
    have encoded : s.toList.utf8Encode = t.toList.utf8Encode := congrArg List.toByteArray same
    rwa [String.utf8Encode_toList, String.utf8Encode_toList, String.toByteArray_inj] at encoded
  · rintro rfl
    rfl

namespace MessagePack

/-! ## Maps from names -/

/-- The fields of a record with their values; a field may be missing. -/
abbrev Fields := List (String × Option Pack)

/-- The entries of the map that fields are written as. -/
def Fields.entries (fs : Fields) : List (Pack × Pack) :=
  fs.filterMap fun f => f.2.map fun v => (.raw (utf8 f.1), v)

/-- What is written to each name. -/
def Fields.written (fs : Fields) : List (Bytes × Pack) :=
  fs.filterMap fun f => f.2.map fun v => (utf8 f.1, v)

/-- A field of a written record spells a field: the names are the same, and either both are missing or
what is written spells the value. -/
inductive SpellsField : String × Option Bytes → String × Option Pack → Prop where
  | mk {name : String} {v : Option Bytes} {p : Option Pack} (short : (utf8 name).length < 32)
      (value : Option.Rel Spells v p) : SpellsField (name, v) (name, p)

/-- The bytes of the fields that are there spell the entries of their map. -/
theorem spellsPair_of_fields {es : List (String × Option Bytes)} {fs : Fields}
    (spell : List.Forall₂ SpellsField es fs) :
    List.Forall₂ SpellsPair (es.filterMap fun e => e.2.map fun v => str (utf8 e.1) ++ v)
      fs.entries := by
  induction spell with
  | nil => exact .nil
  | @cons e f es fs first _ ih =>
    obtain ⟨short, value⟩ := first
    cases value with
    | none => exact ih
    | some spells => exact .cons ⟨_, _, rfl, spells_str (Nat.lt_trans short (by decide)), spells⟩ ih

/-- **A record is a map**, as long as it has fewer than sixteen fields. -/
theorem spells_map {es : List (String × Option Bytes)} {fs : Fields}
    (spell : List.Forall₂ SpellsField es fs) (few : es.length < 16) :
    Spells (map es) (.map fs.entries) := by
  have few' := Nat.lt_of_le_of_lt
    (List.length_filterMap_le (fun e : String × Option Bytes =>
      e.2.map fun v => str (utf8 e.1) ++ v) es) few
  simp only [map]
  rw [if_pos few']
  exact .mapOf (headOf_map few') (spellsPair_of_fields spell)

/-- What is read from a map are the writes to the names of its fields. -/
theorem record_entries (names : List String) (fs : Fields) :
    Writes.record names [.map fs.entries] = some fs.written := by
  have read : fs.entries.mapM (fun e => (e.1.raw?).map (·, e.2)) = some fs.written := by
    induction fs with
    | nil => rfl
    | cons f fs ih =>
      obtain ⟨name, value⟩ := f
      cases value with
      | none => exact ih
      | some v =>
        have first : Fields.entries ((name, some v) :: fs)
            = (.raw (utf8 name), v) :: Fields.entries fs := rfl
        rw [first, List.mapM_cons, ih]
        rfl
  simp [Writes.record, Pack.entries, read]

@[simp] theorem field_written_nil (name : String) : field (Fields.written []) name = [] := rfl

/-- What is read for a name is what its field holds, followed by what further fields of that name
hold. -/
@[simp] theorem field_written_cons (f : String × Option Pack) (fs : Fields) (name : String) :
    field (Fields.written (f :: fs)) name
      = (if f.1 = name then f.2.toList else []) ++ field fs.written name := by
  obtain ⟨name', value⟩ := f
  cases value with
  | none => simp [Fields.written]
  | some v =>
    by_cases same : name' = name
    · simp [Fields.written, field, same]
    · simp [Fields.written, field, same, utf8_inj]

/-! ## Values that are kept -/

/-- Writing and then reading gives the value back. -/
def Keeps {α : Type} (write : α → Bytes) (read : Writes → Option α) (x : α) : Prop :=
  ∃ p, Spells (write x) p ∧ read [p] = some x

/-- A text of fewer than 2³² bytes. -/
def Fits32 (s : Bytes) : Prop := s.length < 2 ^ 32

instance (s : Bytes) : Decidable (Fits32 s) := inferInstanceAs (Decidable (_ < _))

@[simp] theorem text_raw (s : Bytes) : Writes.text [.raw s] = some s := rfl

@[simp] theorem text?_toList (o : Option Bytes) : Writes.text? (o.map Pack.raw).toList = some o := by
  cases o <;> rfl

theorem int?_int {n : Int} (fits : Fits64 n) : Pack.int? (.int n) = some n := by
  have same : n.bmod UInt64.size = n := by
    obtain ⟨low, high⟩ := fits
    refine Int.bmod_eq_of_le ?_ ?_ <;> (rw [UInt64.size]; omega)
  rw [Pack.int?, same]

theorem integer_int {n : Int} (fits : Fits64 n) : Writes.integer [.int n] = some n := by
  simp [Writes.integer, Writes.latest, int?_int fits]

theorem integer?_toList {o : Option Int} (fits : ∀ n ∈ o, Fits64 n) :
    Writes.integer? (o.map Pack.int).toList = some o := by
  cases o with
  | none => rfl
  | some n =>
    have read : Pack.optional Pack.int? (.int n) = some (some n) := by
      rw [Pack.optional, int?_int (fits n rfl)]
      · rfl
      · simp
    simp [Writes.integer?, Writes.latest, read]

theorem rel_str {o : Option Bytes} (fits : ∀ s ∈ o, Fits32 s) :
    Option.Rel Spells (o.map str) (o.map Pack.raw) := by
  cases o with
  | none => exact .none
  | some s => exact .some (spells_str (fits s rfl))

theorem rel_int {o : Option Int} (fits : ∀ n ∈ o, Fits64 n) :
    Option.Rel Spells (o.map int) (o.map Pack.int) := by
  cases o with
  | none => exact .none
  | some n => exact .some (spells_int (fits n rfl))

/-- Elements that are kept have values to be read from. -/
theorem exists_packs {α : Type} {write : α → Bytes} {read : Writes → Option α} {xs : List α}
    (kept : ∀ x ∈ xs, Keeps write read x) :
    ∃ ps : List Pack, List.Forall₂ Spells (xs.map write) ps ∧
      (ps.map fun p => [p]).mapM read = some xs := by
  induction xs with
  | nil => exact ⟨[], .nil, rfl⟩
  | cons x xs ih =>
    obtain ⟨p, spells, reads⟩ := kept x List.mem_cons_self
    obtain ⟨ps, spell, read⟩ := ih fun y member => kept y (List.mem_cons_of_mem _ member)
    exact ⟨p :: ps, .cons spells spell, by simp [List.mapM_cons, reads, read]⟩

theorem overlay_nothing (ps : List Pack) : Writes.overlay [] ps = ps.map fun p => [p] := by
  cases ps <;> rfl

/-- **A list is kept** if its elements are, whether one without elements is written as absent or
not. -/
theorem keeps_list {α : Type} {write : α → Bytes} {read : Writes → Option α} {xs : List α}
    (made : Bool) (fits : xs.length < 2 ^ 32) (kept : ∀ x ∈ xs, Keeps write read x) :
    Keeps (MessagePack.list made write) (Writes.list read) xs := by
  by_cases absent : (xs.isEmpty && !made) = true
  · refine ⟨.nil, ?_, ?_⟩
    · rw [MessagePack.list, if_pos absent]
      exact spells_nil
    · rw [Bool.and_eq_true, List.isEmpty_iff] at absent
      rw [absent.1]
      rfl
  · obtain ⟨ps, spell, reads⟩ := exists_packs kept
    refine ⟨.array ps, ?_, ?_⟩
    · rw [MessagePack.list, if_neg absent]
      exact spells_array (by rwa [List.length_map]) spell
    · have length : ps.length = xs.length := by
        rw [← spell.length_eq, List.length_map]
      simp [Writes.list, Writes.extend, overlay_nothing, reads, length]

end MessagePack

/-! ## Records -/

open MessagePack

/-- A comment whose texts and integers fit into the written form. -/
structure Comment.Storable (c : Comment) : Prop where
  text : Fits32 c.text
  fullText : Fits32 c.fullText
  start : Fits64 c.start
  stop : Fits64 c.stop
  line : Fits64 c.line
  column : Fits64 c.column
  owner : ∀ s ∈ c.owner, Fits32 s

theorem Comment.keeps {c : Comment} (h : c.Storable) : Keeps Comment.pack Comment.ofWrites c := by
  have kind : Fits32 c.kind.name := by cases c.kind <;> decide
  refine ⟨.map (Fields.entries [("kind", some (.raw c.kind.name)), ("text", some (.raw c.text)),
    ("full_text", some (.raw c.fullText)), ("start", some (.int c.start)),
    ("end", some (.int c.stop)), ("line", some (.int c.line)), ("column", some (.int c.column)),
    ("node_id", c.owner.map .raw)]), spells_map ?_ (by simp), ?_⟩
  · simp only [List.forall₂_cons]
    exact ⟨.mk (by decide) (.some (spells_bin kind)), .mk (by decide) (.some (spells_str h.text)),
      .mk (by decide) (.some (spells_str h.fullText)), .mk (by decide) (.some (spells_int h.start)),
      .mk (by decide) (.some (spells_int h.stop)), .mk (by decide) (.some (spells_int h.line)),
      .mk (by decide) (.some (spells_int h.column)), .mk (by decide) (rel_str h.owner), .nil⟩
  · simp [Comment.ofWrites, record_entries, integer_int, h.start, h.stop, h.line, h.column]

/-- An example whose texts and integers fit into the written form. -/
structure Example.Storable (e : Example) : Prop where
  code : Fits32 e.code
  expected : ∀ s ∈ e.expected, Fits32 s
  line : Fits64 e.line
  raw : Fits32 e.raw
  owner : ∀ s ∈ e.owner, Fits32 s

theorem Example.keeps {e : Example} (h : e.Storable) : Keeps Example.pack Example.ofWrites e := by
  refine ⟨.map (Fields.entries [("code", some (.raw e.code)), ("expected", e.expected.map .raw),
    ("line", some (.int e.line)), ("raw", some (.raw e.raw)),
    ("function_name", e.owner.map .raw)]), spells_map ?_ (by simp), ?_⟩
  · simp only [List.forall₂_cons]
    exact ⟨.mk (by decide) (.some (spells_str h.code)), .mk (by decide) (rel_str h.expected),
      .mk (by decide) (.some (spells_int h.line)), .mk (by decide) (.some (spells_str h.raw)),
      .mk (by decide) (rel_str h.owner), .nil⟩
  · simp [Example.ofWrites, record_entries, integer_int, h.line]

/-- A tech-debt note whose texts and integers fit into the written form. -/
structure TechDebt.Storable (d : TechDebt) : Prop where
  line : Fits64 d.line
  reason : Fits32 d.reason
  raw : Fits32 d.raw
  owner : ∀ s ∈ d.owner, Fits32 s

theorem TechDebt.keeps {d : TechDebt} (h : d.Storable) :
    Keeps TechDebt.pack TechDebt.ofWrites d := by
  refine ⟨.map (Fields.entries [("line", some (.int d.line)), ("reason", some (.raw d.reason)),
    ("raw", some (.raw d.raw)), ("function_name", d.owner.map .raw)]),
    spells_map ?_ (by simp), ?_⟩
  · simp only [List.forall₂_cons]
    exact ⟨.mk (by decide) (.some (spells_int h.line)), .mk (by decide) (.some (spells_str h.reason)),
      .mk (by decide) (.some (spells_str h.raw)), .mk (by decide) (rel_str h.owner), .nil⟩
  · simp [TechDebt.ofWrites, record_entries, integer_int, h.line]

/-- A severity that has a name of its own. -/
def Severity.Named (s : Severity) : Prop := s = .info ∨ s = .warn ∨ s = .error

theorem Severity.Named.fits {s : Severity} (named : s.Named) : Fits32 s.name := by
  rcases named with rfl | rfl | rfl <;> decide

theorem Severity.Named.latest {s : Severity} (named : s.Named) :
    Writes.latest Severity.ofPack .info [.raw s.name] = some s := by
  rcases named with rfl | rfl | rfl <;> decide

/-- A diagnostic whose texts and integers fit into the written form, and whose severity has a name. -/
structure Diagnostic.Storable (d : Diagnostic) : Prop where
  code : Fits32 d.code.text
  category : Fits32 d.category.name
  message : Fits32 d.message
  line : Fits64 d.line
  column : ∀ n ∈ d.column, Fits64 n
  owner : ∀ s ∈ d.owner, Fits32 s
  severity : d.severity.Named
  suggestion : ∀ s ∈ d.suggestion, Fits32 s

theorem Diagnostic.keeps {d : Diagnostic} (h : d.Storable) :
    Keeps Diagnostic.pack Diagnostic.ofWrites d := by
  refine ⟨.map (Fields.entries [("code", some (.raw d.code.text)),
    ("category", some (.raw d.category.name)), ("message", some (.raw d.message)),
    ("line", some (.int d.line)), ("column", d.column.map .int), ("function_name", d.owner.map .raw),
    ("severity", some (.raw d.severity.name)), ("suggestion", d.suggestion.map .raw)]),
    spells_map ?_ (by simp), ?_⟩
  · simp only [List.forall₂_cons]
    exact ⟨.mk (by decide) (.some (spells_str h.code)),
      .mk (by decide) (.some (spells_str h.category)),
      .mk (by decide) (.some (spells_str h.message)), .mk (by decide) (.some (spells_int h.line)),
      .mk (by decide) (rel_int h.column), .mk (by decide) (rel_str h.owner),
      .mk (by decide) (.some (spells_bin h.severity.fits)), .mk (by decide) (rel_str h.suggestion),
      .nil⟩
  · simp [Diagnostic.ofWrites, record_entries, integer_int, h.line, integer?_toList h.column,
      h.severity.latest]

end Marginalia
