import Marginalia.Proofs.Notes.Rules
import Marginalia.Proofs.Text.Affixes
import Marginalia.Proofs.Text.Space

/-!
# Notes are parts of comments

Markers are read by cutting and trimming.  So the texts that a marker carries are
parts of the text that it was read from (`Marker.partOf_ofText`), and so are those of
the notes of a comment.  A block of examples has at most one example for each line of
its comment.
-/

namespace Marginalia

set_option autoImplicit false

/-! ## Cutting and trimming -/

namespace Bytes

theorem after?_isInfix {p s rest : Bytes} (found : after? p s = some rest) : rest <:+: s := by
  rw [after?_eq_some_iff.1 found]
  exact (List.suffix_append p rest).isInfix

theorem cut_isInfix {sep s before rest : Bytes} (found : cut sep s = some (before, rest)) :
    before <:+: s ∧ rest <:+: s := by
  rw [eq_of_cut found]
  exact ⟨⟨[], sep ++ rest, by simp⟩, ⟨before ++ sep, [], by simp⟩⟩

/-- The first piece of a text is its beginning, and the others are parts of it too. -/
theorem splitAtByte_parts (sep : UInt8) (s : Bytes) :
    (∀ piece ∈ (splitAtByte sep s).head?, piece <+: s) ∧ ∀ piece ∈ splitAtByte sep s, piece <:+: s := by
  induction s with
  | nil => simp [splitAtByte]
  | cons b s ih =>
    obtain ⟨first, each⟩ := ih
    have longer : ∀ piece ∈ splitAtByte sep s, piece <:+: b :: s :=
      fun piece member => List.infix_cons (each piece member)
    rw [splitAtByte]
    split
    · simp only [List.head?_cons, Option.mem_def, Option.some.injEq, forall_eq', List.mem_cons,
        forall_eq_or_imp]
      exact ⟨List.nil_prefix, List.nil_infix, longer⟩
    · cases pieces : splitAtByte sep s with
      | nil => exact absurd pieces (splitAtByte_ne_nil sep s)
      | cons piece pieces' =>
        rw [pieces] at first longer
        have begins : b :: piece <+: b :: s := List.cons_prefix_cons.2 ⟨rfl, first piece rfl⟩
        simp only [List.head?_cons, Option.mem_def, Option.some.injEq, forall_eq', List.mem_cons,
          forall_eq_or_imp]
        exact ⟨begins, begins.isInfix, fun other member => longer other (List.mem_cons_of_mem _ member)⟩

end Bytes

/-! ## What a marker carries -/

/-- The parts of an example are parts of a text. -/
structure ExampleText.PartOf (s : Bytes) (e : ExampleText) : Prop where
  code : e.code <:+: s
  expected : ∀ t ∈ e.expected, t <:+: s
  raw : e.raw <:+: s

theorem ExampleText.partOf_ofText {raw s : Bytes} (part : raw <:+: s) :
    (ExampleText.ofText raw).PartOf s := by
  rw [ofText]
  cases found : Bytes.cut separator raw with
  | none => exact ⟨(Bytes.trim_isInfix raw).trans part, by simp, part⟩
  | some halves =>
    obtain ⟨code, expected⟩ := halves
    obtain ⟨first, second⟩ := Bytes.cut_isInfix found
    refine ⟨((Bytes.trim_isInfix code).trans first).trans part, fun t given => ?_, part⟩
    simp only [result?, Option.mem_def] at given
    split at given
    · cases given
    · cases given
      exact ((Bytes.trim_isInfix expected).trans second).trans part

/-- What a marker carries are parts of a text; of examples there is at most one for each line. -/
def Marker.PartOf (s : Bytes) : Marker → Prop
  | .description value => value <:+: s
  | .example_ examples => examples.length ≤ s.count Bytes.newline + 1 ∧ ∀ e ∈ examples, e.PartOf s
  | .techDebt reason => reason <:+: s
  | .plain => True

namespace Marker

theorem withoutOpener_isInfix (s : Bytes) : withoutOpener s <:+: s := by
  rw [withoutOpener]
  split
  next found => exact Bytes.after?_isInfix found
  next =>
    split
    next found => exact Bytes.after?_isInfix found
    next =>
      cases found : Bytes.after? blockDebt s with
      | none => exact List.infix_refl _
      | some rest => exact Bytes.after?_isInfix found

theorem blockBody_isInfix (s : Bytes) : blockBody s <:+: s :=
  (Bytes.trim_isInfix _).trans <| (Bytes.dropSuffix_prefix _ _).isInfix.trans <|
    (withoutOpener_isInfix _).trans (Bytes.trim_isInfix s)

theorem partOf_blockExamples {body s : Bytes} (part : body <:+: s) :
    (Marker.example_ (blockExamples body)).PartOf s := by
  constructor
  · have lines := Bytes.length_splitAtByte Bytes.newline body
    have fewer := part.sublist.count_le Bytes.newline
    rw [blockExamples, List.length_map]
    refine Nat.le_trans (List.length_filter_le _ _) ?_
    rw [List.length_map, Bytes.lines]
    omega
  · intro e member
    obtain ⟨line, kept, rfl⟩ := List.mem_map.1 member
    obtain ⟨whole, among, rfl⟩ := List.mem_map.1 (List.mem_filter.1 kept).1
    have inBody := (Bytes.splitAtByte_parts Bytes.newline body).2 whole among
    exact ExampleText.partOf_ofText (((Bytes.trim_isInfix whole).trans inBody).trans part)

/-- **What a marker carries are parts of the text** that it was read from. -/
theorem partOf_ofText (s : Bytes) : (Marker.ofText s).PartOf s := by
  have trimmed := Bytes.trim_isInfix s
  have block := (blockBody_isInfix s.trim).trans trimmed
  simp only [Marker.ofText]
  split
  next found => exact (Bytes.trim_isInfix _).trans ((Bytes.after?_isInfix found).trans trimmed)
  next =>
    split
    next => exact block
    next =>
      split
      next rest found =>
        have part := (Bytes.trim_isInfix rest).trans ((Bytes.after?_isInfix found).trans trimmed)
        refine ⟨Nat.le_add_left _ _, fun e member => ?_⟩
        obtain rfl := List.mem_singleton.1 member
        exact ExampleText.partOf_ofText part
      next =>
        split
        next => exact partOf_blockExamples block
        next =>
          split
          next found => exact (Bytes.after?_isInfix found).trans trimmed
          next =>
            split
            next => exact block
            next => trivial

end Marker

/-! ## The notes of a comment -/

namespace Comment

variable {c : Comment}

theorem description?_isInfix {s : Bytes} (given : c.description? = some s) : s <:+: c.fullText := by
  have part := Marker.partOf_ofText c.fullText
  rw [description?, marker] at given
  split at given
  next read =>
    cases given
    rw [read] at part
    exact part
  next => cases given

theorem length_examples_le (c : Comment) :
    c.examples.length ≤ c.fullText.count Bytes.newline + 1 := by
  have part := Marker.partOf_ofText c.fullText
  rw [examples, marker]
  split
  next read =>
    rw [read] at part
    rw [List.length_map]
    exact part.1
  next => exact Nat.zero_le _

/-- An example is part of its comment, and has its line and owner. -/
structure Gives (c : Comment) (e : Example) : Prop where
  code : e.code <:+: c.fullText
  expected : ∀ s ∈ e.expected, s <:+: c.fullText
  raw : e.raw <:+: c.fullText
  line : e.line = c.line
  owner : e.owner = c.owner

theorem gives_of_mem {e : Example} (member : e ∈ c.examples) : c.Gives e := by
  have part := Marker.partOf_ofText c.fullText
  rw [examples, marker] at member
  split at member
  next read =>
    rw [read] at part
    obtain ⟨text, among, rfl⟩ := List.mem_map.1 member
    obtain ⟨code, expected, raw⟩ := part.2 text among
    exact ⟨code, expected, raw, rfl, rfl⟩
  next => cases member

theorem debt?_parts {d : TechDebt} (given : c.debt? = some d) :
    d.reason <:+: c.fullText ∧ d.raw = d.reason ∧ d.line = c.line ∧ d.owner = c.owner := by
  have part := Marker.partOf_ofText c.fullText
  rw [debt?, marker] at given
  split at given
  next reason read =>
    cases given
    rw [read] at part
    exact ⟨(Bytes.trim_isInfix reason).trans part, rfl, rfl, rfl⟩
  next => cases given

end Comment

end Marginalia
