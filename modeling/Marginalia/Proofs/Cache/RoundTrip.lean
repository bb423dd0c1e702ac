import Marginalia.Cache.Payload
import Marginalia.Proofs.MessagePack.Record

/-!
# What the cache keeps is read back

A payload is written as a record of texts, lists of records and notes.  A list
without elements may be written as an empty list or as absent; which of the two is
chosen depends on how the list came about, and reading takes them for the same.
So the written form of a payload is not unique (`Payload.encodeAs`), but each of
its forms is read back as the payload, with everything that was missing still
missing and everything that was empty still there (`decode_encode_all`).
-/

namespace Marginalia

set_option autoImplicit false

open MessagePack

/-- Which lists are written as lists even when they have no elements. -/
structure ListForms where
  comments : Bool
  examples : Bool
  debts : Bool
  diagnostics : Bool
  scanDiagnostics : Bool
  deriving DecidableEq, Repr

namespace ListForms

/-- The forms of a payload that was found out: only the comments may be absent. -/
def ofExamination : ListForms where
  comments := false
  examples := true
  debts := true
  diagnostics := true
  scanDiagnostics := true

end ListForms

/-- Notes, with their lists in the given forms. -/
def Notes.packAs (forms : ListForms) (n : Notes) : Bytes := MessagePack.map
  [("description", n.description.map str),
   ("examples", some (MessagePack.list forms.examples Example.pack n.examples)),
   ("tech_debt", some (MessagePack.list forms.debts TechDebt.pack n.debts)),
   ("diagnostics", some (MessagePack.list forms.diagnostics Diagnostic.pack n.diagnostics))]

/-- The bytes of a payload, with its lists in the given forms. -/
def Payload.encodeAs (forms : ListForms) (p : Payload) : Bytes := MessagePack.map
  [("Schema", some (word Payload.schema)),
   ("Path", some (str p.path)),
   ("Comments", some (MessagePack.list forms.comments Comment.pack p.comments)),
   ("Result", some (p.notes.packAs forms)),
   ("ScanDiags", some (MessagePack.list forms.scanDiagnostics Diagnostic.pack p.scanDiagnostics)),
   ("ResolverErr", some (str p.resolverError))]

theorem Payload.encode_eq_encodeAs (p : Payload) : p.encode = p.encodeAs .ofExamination := rfl

/-! ## What can be kept -/

/-- Notes whose parts fit into the written form. -/
structure Notes.Storable (n : Notes) : Prop where
  description : ∀ s ∈ n.description, Fits32 s
  examples : n.examples.length < 2 ^ 32 ∧ ∀ e ∈ n.examples, e.Storable
  debts : n.debts.length < 2 ^ 32 ∧ ∀ d ∈ n.debts, d.Storable
  diagnostics : n.diagnostics.length < 2 ^ 32 ∧ ∀ d ∈ n.diagnostics, d.Storable

/-- A payload whose parts fit into the written form: texts and lists are shorter than 2³², integers have
64 bits, and severities have names. -/
structure Payload.Storable (p : Payload) : Prop where
  path : Fits32 p.path
  comments : p.comments.length < 2 ^ 32 ∧ ∀ c ∈ p.comments, c.Storable
  notes : p.notes.Storable
  scanDiagnostics : p.scanDiagnostics.length < 2 ^ 32 ∧ ∀ d ∈ p.scanDiagnostics, d.Storable
  resolverError : Fits32 p.resolverError

theorem Notes.keeps {n : Notes} (h : n.Storable) (forms : ListForms) :
    Keeps (Notes.packAs forms) Notes.ofWrites n := by
  obtain ⟨examples, spells, reads⟩ := keeps_list forms.examples h.examples.1
    fun e member => Example.keeps (h.examples.2 e member)
  obtain ⟨debts, spells', reads'⟩ := keeps_list forms.debts h.debts.1
    fun d member => TechDebt.keeps (h.debts.2 d member)
  obtain ⟨diagnostics, spells'', reads''⟩ := keeps_list forms.diagnostics h.diagnostics.1
    fun d member => Diagnostic.keeps (h.diagnostics.2 d member)
  refine ⟨.map (Fields.entries [("description", n.description.map .raw), ("examples", some examples),
    ("tech_debt", some debts), ("diagnostics", some diagnostics)]), spells_map ?_ (by simp), ?_⟩
  · simp only [List.forall₂_cons]
    exact ⟨.mk (by decide) (rel_str h.description), .mk (by decide) (.some spells),
      .mk (by decide) (.some spells'), .mk (by decide) (.some spells''), .nil⟩
  · simp [Notes.ofWrites, record_entries, reads, reads', reads'']

namespace Payload

/-- The number of the schema that some bytes name. -/
def schemaOf? (s : Bytes) : Option UInt16 := do
  let top : Writes := [← first? s]
  let r ← top.record ["Schema", "Path", "Comments", "Result", "ScanDiags", "ResolverErr"]
  (field r "Schema").latest Pack.word? 0

variable {p : Payload}

/-- The bytes of a payload spell a record, each field of which is read as the field of the payload. -/
theorem exists_fields (storable : p.Storable) (forms : ListForms) :
    ∃ comments notes scanned,
      Spells (p.encodeAs forms) (.map (Fields.entries
        [("Schema", some (.int schema.toNat)), ("Path", some (.raw p.path)),
          ("Comments", some comments), ("Result", some notes), ("ScanDiags", some scanned),
          ("ResolverErr", some (.raw p.resolverError))])) ∧
      Writes.list Comment.ofWrites [comments] = some p.comments ∧
      Notes.ofWrites [notes] = some p.notes ∧
      Writes.list Diagnostic.ofWrites [scanned] = some p.scanDiagnostics := by
  obtain ⟨comments, spells, reads⟩ := keeps_list forms.comments storable.comments.1
    fun c member => Comment.keeps (storable.comments.2 c member)
  obtain ⟨notes, spells', reads'⟩ := Notes.keeps storable.notes forms
  obtain ⟨scanned, spells'', reads''⟩ := keeps_list forms.scanDiagnostics
    storable.scanDiagnostics.1
    fun d member => Diagnostic.keeps (storable.scanDiagnostics.2 d member)
  refine ⟨comments, notes, scanned, spells_map ?_ (by simp), reads, reads', reads''⟩
  simp only [List.forall₂_cons]
  exact ⟨.mk (by decide) (.some (spells_word schema)),
    .mk (by decide) (.some (spells_str storable.path)), .mk (by decide) (.some spells),
    .mk (by decide) (.some spells'), .mk (by decide) (.some spells''),
    .mk (by decide) (.some (spells_str storable.resolverError)), .nil⟩

theorem latest_schema : Writes.latest Pack.word? 0 [.int schema.toNat] = some schema := by decide

theorem schemaOf?_encodeAs (storable : p.Storable) (forms : ListForms) :
    schemaOf? (p.encodeAs forms) = some schema := by
  obtain ⟨comments, notes, scanned, spells, -, -, -⟩ := exists_fields storable forms
  rw [schemaOf?, spells.first?]
  simp [record_entries, latest_schema]

theorem decode_encodeAs (storable : p.Storable) (forms : ListForms) :
    decode (p.encodeAs forms) = some p := by
  obtain ⟨comments, notes, scanned, spells, reads, reads', reads''⟩ := exists_fields storable forms
  rw [decode, spells.first?]
  simp [record_entries, latest_schema, reads, reads', reads'']

/-- **A payload is read back from each of its written forms**, the one that the cache writes among
them, and each form names the current schema. -/
theorem decode_encode_all (p : Payload) (storable : p.Storable) :
    decode p.encode = some p ∧
    ∀ forms, decode (p.encodeAs forms) = some p ∧ schemaOf? (p.encodeAs forms) = some schema := by
  refine ⟨?_, fun forms => ⟨decode_encodeAs storable forms, schemaOf?_encodeAs storable forms⟩⟩
  rw [encode_eq_encodeAs]
  exact decode_encodeAs storable .ofExamination

/-- A payload at the edges of the written form: the least and the greatest integer, lists and texts of
the first length that needs a longer form, and texts that are there but empty. -/
def edges : Payload where
  path := List.replicate 256 Bytes.slash
  comments := List.replicate 16
    { kind := .block
      text := []
      fullText := List.replicate 32 Bytes.slash
      start := -2 ^ 63
      stop := 2 ^ 63 - 1
      line := -33
      column := 128
      owner := some [] }
  notes :=
    { description := some []
      examples := [⟨[], some [], 65536, [], none⟩, ⟨[], none, 2 ^ 32, [0xFF], some []⟩] }
  scanDiagnostics := [⟨⟨[]⟩, ⟨[]⟩, [], -129, some (-32769), none, .warn, some []⟩]

theorem storable_edges : edges.Storable where
  path := by
    rw [Fits32, edges, List.length_replicate]
    decide
  comments := by
    refine ⟨by decide, fun c member => ?_⟩
    rw [(List.mem_replicate.1 member).2]
    exact ⟨by decide, by decide, by decide, by decide, by decide, by decide, by decide⟩
  notes := by
    refine ⟨by decide, ⟨by decide, ?_⟩, ⟨by decide, by simp [edges]⟩, ⟨by decide, by simp [edges]⟩⟩
    simp only [edges, List.forall_mem_cons]
    exact ⟨⟨by decide, by decide, by decide, by decide, by decide⟩,
      ⟨by decide, by decide, by decide, by decide, by decide⟩, by simp⟩
  scanDiagnostics := by
    refine ⟨by decide, ?_⟩
    simp only [edges, List.forall_mem_cons]
    exact ⟨⟨by decide, by decide, by decide, by decide, by decide, by decide, .inr (.inl rfl),
      by decide⟩, by simp⟩
  resolverError := by decide

/-- The payload `edges` is read back. -/
theorem decode_edges :
    edges.Storable ∧ decode edges.encode = some edges ∧
    ∀ forms, decode (edges.encodeAs forms) = some edges ∧
      schemaOf? (edges.encodeAs forms) = some schema :=
  ⟨storable_edges, decode_encode_all edges storable_edges⟩

end Payload

end Marginalia
