import Marginalia.Proofs.Cache.RoundTrip
import Marginalia.Proofs.Extraction.Report
import Marginalia.Proofs.Scan.Extent

/-!
# What is found out about a file fits into the cache

The written form of a payload holds texts and lists of fewer than 2³² bytes or
elements, and integers of 64 bits.  For a file of fewer than 2³² bytes only the texts
that need not be parts of it have to be bounded: its path, the names of owners, the
problem with the patterns, and the texts of comments if they are normalised
(`Options.Fits`).  Everything else is counted in the file: there are no more comments,
notes and reports than bytes, lines and columns are not greater, and the texts of
notes are parts of comments.  So what is found out can be kept, and is read back
(`Options.Fits.decode_examine`).
-/

namespace Marginalia

set_option autoImplicit false

open MessagePack

theorem MessagePack.Fits32.of_isInfix {s t : Bytes} (fits : Fits32 t) (part : s <:+: t) : Fits32 s :=
  Nat.lt_of_le_of_lt part.length_le fits

/-! ## Notes -/

theorem Fault.fits (f : Fault) : Fits32 f.code.text ∧ Fits32 f.code.category.name ∧
    Fits32 f.wording.1 ∧ Fits32 f.wording.2 := by
  cases f <;> decide +kernel

/-- What is reported about a comment that can be kept can be kept. -/
theorem Fault.storable_reportedOn {c : Comment} (kept : c.Storable) (f : Fault) :
    (f.reportedOn c).Storable := by
  obtain ⟨code, category, message, suggestion⟩ := f.fits
  refine ⟨code, category, message, kept.line, ?_, kept.owner, ?_, ?_⟩
  · rintro n ⟨⟩
    exact kept.column
  · rcases f.severity_code with info | warn
    · exact .inl info
    · exact .inr (.inl warn)
  · rintro s ⟨⟩
    exact suggestion

theorem Comment.storable_of_gives {c : Comment} {e : Example} (kept : c.Storable)
    (gives : c.Gives e) : e.Storable where
  code := kept.fullText.of_isInfix gives.code
  expected := fun s given => kept.fullText.of_isInfix (gives.expected s given)
  line := gives.line ▸ kept.line
  raw := kept.fullText.of_isInfix gives.raw
  owner := gives.owner ▸ kept.owner

theorem Comment.storable_debt {c : Comment} {d : TechDebt} (kept : c.Storable)
    (given : c.debt? = some d) : d.Storable := by
  obtain ⟨part, raw, line, owner⟩ := Comment.debt?_parts given
  have reason := kept.fullText.of_isInfix part
  exact ⟨line ▸ kept.line, reason, raw ▸ reason, owner ▸ kept.owner⟩

/-- The notes of comments that can be kept can be kept. -/
theorem Notes.storable_ofComments {cs : List Comment} (kept : ∀ c ∈ cs, c.Storable)
    (few : cs.length < 2 ^ 32) (fewExamples : (cs.flatMap Comment.examples).length < 2 ^ 32) :
    (Notes.ofComments cs).Storable := by
  have reports := Nat.lt_of_le_of_lt (Notes.length_diagnostics_le cs) few
  refine ⟨?_, ?_, ?_, reports, fun d member => ?_⟩
  · intro s given
    rw [Notes.ofComments_eq_byRules] at given
    obtain ⟨c, member, described⟩ := List.exists_of_findSome?_eq_some given
    exact (kept c member).fullText.of_isInfix (Comment.description?_isInfix described)
  · rw [Notes.ofComments_eq_byRules]
    refine ⟨fewExamples, fun e given => ?_⟩
    obtain ⟨c, member, given⟩ := List.mem_flatMap.1 given
    exact Comment.storable_of_gives (kept c member) (Comment.gives_of_mem given)
  · rw [Notes.ofComments_eq_byRules]
    refine ⟨Nat.lt_of_le_of_lt (List.length_filterMap_le _ _) few, fun d given => ?_⟩
    obtain ⟨c, member, given⟩ := List.mem_filterMap.1 given
    exact Comment.storable_debt (kept c member) given
  · obtain ⟨c, among, f, rfl⟩ := Notes.exists_reportedOn member
    exact f.storable_reportedOn (kept c among)

/-- How many examples there are does not depend on owners. -/
theorem Comment.length_examples_unowned (cs : List Comment) :
    ((cs.map Comment.unowned).flatMap Comment.examples).length
      = (cs.flatMap Comment.examples).length := by
  have each : ∀ c : Comment, c.unowned.examples.length = c.examples.length := by
    intro c
    simp only [examples, marker, unowned]
    split
    · rw [List.length_map, List.length_map]
    · rfl
  rw [List.flatMap_map, List.length_flatMap, List.length_flatMap]
  simp only [each]

/-! ## Places -/

/-- The place of a comment in a text of fewer than 2³² bytes takes less than 64 bits. -/
theorem Scan.fits_place {normalize : Bool} {content : Bytes} (short : content.length < 2 ^ 32)
    {c : Comment} (member : c ∈ (Scan.ofText normalize content).comments) :
    Fits64 c.start ∧ Fits64 c.stop ∧ Fits64 c.line ∧ Fits64 c.column := by
  obtain ⟨before, l, after, place⟩ := exists_standsAt member
  have inside := place.ending_le
  have forward := place.offset_lt_ending
  have start := place.start
  have stop := place.stop
  obtain ⟨line, lineLe, column, columnLe⟩ := line_column_le member
  simp only [Fits64]
  omega

/-- What a scan reports can be kept. -/
theorem Scan.storable_diagnostics {content : Bytes} (short : content.length < 2 ^ 32) :
    (Scan.ofText false content).diagnostics.length < 2 ^ 32 ∧
    ∀ d ∈ (Scan.ofText false content).diagnostics, d.Storable := by
  rw [diagnostics_eq]
  constructor
  · rw [List.length_map]
    exact Nat.lt_of_le_of_lt (List.length_filter_le _ _)
      (Nat.lt_of_le_of_lt (length_comments_le false content) short)
  · intro d reported
    obtain ⟨c, found, rfl⟩ := List.mem_map.1 reported
    obtain ⟨-, -, line, column⟩ := fits_place short (List.mem_filter.1 found).1
    -- Only the position differs from one such report to the next.
    have code : Fits32 (unterminated 0 0).code.text := by decide +kernel
    have category : Fits32 (unterminated 0 0).category.name := by decide +kernel
    have message : Fits32 (unterminated 0 0).message := by decide +kernel
    refine ⟨code, category, message, line, ?_, by simp [unterminated, Diagnostic.ofCode],
      .inr (.inr rfl), ?_⟩
    · rintro n ⟨⟩
      exact column
    · rintro s ⟨⟩
      decide +kernel

/-! ## What is found out -/

/-- A file, and what is found out about it, can be written in 32 bits: the file has fewer than 2³²
bytes, and so has each text that need not be a part of it. -/
structure Options.Fits [GoParser] (o : Options) (file : SourceFile) : Prop where
  content : file.content.length < 2 ^ 32
  path : Fits32 file.path
  /-- normalising may make a text longer -/
  normalized : o.normalize = true →
    ∀ c ∈ (Scan.ofText true file.content).comments, Fits32 c.text ∧ Fits32 c.fullText
  owners : ∀ c ∈ (o.examine file).comments, ∀ name ∈ c.owner, Fits32 name
  problem : Fits32 (o.examine file).resolverError

namespace Options

variable {o : Options} {file : SourceFile}

/-- The comments of a scan can be kept. -/
theorem Fits.scanned [GoParser] (fits : o.Fits file) {c : Comment}
    (member : c ∈ (Scan.ofText o.normalize file.content).comments) : c.Storable := by
  have texts : Fits32 c.text ∧ Fits32 c.fullText := by
    cases normal : o.normalize with
    | true =>
      rw [normal] at member
      exact fits.normalized normal c member
    | false =>
      rw [normal] at member
      obtain ⟨text, fullText⟩ := Scan.texts_isInfix member
      have whole : Fits32 file.content := fits.content
      exact ⟨whole.of_isInfix text, whole.of_isInfix fullText⟩
  have unowned : c.owner = none := by
    obtain ⟨⟨offset, lexeme⟩, -, found⟩ := List.mem_filterMap.1 member
    obtain ⟨body, -, rfl⟩ := Option.map_eq_some_iff.1 found
    rfl
  obtain ⟨start, stop, line, column⟩ := Scan.fits_place fits.content member
  exact ⟨texts.1, texts.2, start, stop, line, column, by simp [unowned]⟩

/-- So can those that have owners. -/
theorem Fits.comments [GoParser] (fits : o.Fits file) {c : Comment}
    (member : c ∈ (o.examine file).comments) :
    c.Storable := by
  have among : c.unowned ∈ (Scan.ofText o.normalize file.content).comments := by
    rw [← unowned_examine]
    exact List.mem_map_of_mem member
  obtain ⟨text, fullText, start, stop, line, column, -⟩ := fits.scanned among
  exact ⟨text, fullText, start, stop, line, column, fits.owners c member⟩

/-- **What is found out about a file that fits can be kept.** -/
theorem Fits.storable [GoParser] (fits : o.Fits file) : (o.examine file).Storable := by
  have same := o.unowned_examine file
  have few : (o.examine file).comments.length < 2 ^ 32 := by
    rw [← List.length_map Comment.unowned, same]
    exact Nat.lt_of_le_of_lt (Scan.length_comments_le _ _) fits.content
  have fewExamples : ((o.examine file).comments.flatMap Comment.examples).length < 2 ^ 32 := by
    rw [← Comment.length_examples_unowned, same]
    exact Nat.lt_of_le_of_lt (Scan.length_examples_le _ _) fits.content
  refine ⟨fits.path, ⟨few, fun c => fits.comments⟩, ?_, ?_, fits.problem⟩
  · rw [notes_examine]
    exact Notes.storable_ofComments (fun c => fits.comments) few fewExamples
  · rw [scanDiagnostics_examine]
    exact Scan.storable_diagnostics fits.content

/-- What is found out about a file that fits is read back from the cache. -/
theorem Fits.decode_examine [GoParser] (fits : o.Fits file) :
    Payload.decode (o.examine file).encode = some (o.examine file) := by
  rw [Payload.encode_eq_encodeAs]
  exact Payload.decode_encodeAs fits.storable .ofExamination

end Options

end Marginalia
