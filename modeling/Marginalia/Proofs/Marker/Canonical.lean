import Marginalia.Marker.Example
import Marginalia.Proofs.Text.Affixes
import Marginalia.Proofs.Text.Space

/-!
# Canonical examples

Reading an example cuts it at the first separator and trims both parts.  What is left is
canonical (`ExampleText.Canonical`): there is no white space at the ends of its parts, no
separator in its code, and the result that is expected is not empty.  Written down again, it
is read as the same example (`ExampleText.ofText_canonical`).

That is where cutting and trimming meet.  A code may end in a slash, a result may start with
one and have more separators in it, and a code may be empty.  But the blank that is written
between the code and the separator is in neither, so the separator does not stand earlier
(`Bytes.cutAt_append_cons`), and trimming takes both blanks away again.
-/

namespace Marginalia

set_option autoImplicit false

namespace ExampleText

open Bytes (CutAt Trims Trimmed Blank)

variable {raw before after text x : Bytes} {e : ExampleText}

/-! ## What reading gives -/

theorem result?_eq_none_iff : result? text = none ↔ Blank text := by
  rw [← Bytes.trim_eq_nil_iff, ← List.isEmpty_iff, result?]
  split
  · rename_i nothing
    exact ⟨fun _ => nothing, fun _ => rfl⟩
  · rename_i something
    exact ⟨nofun, fun nothing => absurd nothing something⟩

theorem result?_eq_some_iff : result? text = some x ↔ Trims text x ∧ x ≠ [] := by
  rw [← Bytes.trim_eq_iff, result?]
  split
  · rename_i nothing
    rw [List.isEmpty_iff] at nothing
    refine ⟨nofun, ?_⟩
    rintro ⟨rfl, something⟩
    exact absurd nothing something
  · rename_i something
    rw [List.isEmpty_iff] at something
    constructor
    · intro same
      obtain rfl := Option.some.inj same
      exact ⟨rfl, something⟩
    · rintro ⟨rfl, -⟩
      rfl

theorem ofText_of_cutAt (at_ : CutAt separator raw before after) :
    ofText raw = ⟨before.trim, result? after, raw⟩ := by
  rw [ofText, Bytes.cut_eq_some_iff.2 at_]

theorem ofText_of_plain (plain : ¬ separator <:+: raw) : ofText raw = ⟨raw.trim, none, raw⟩ := by
  rw [ofText, Bytes.cut_eq_none_iff.2 plain]

theorem plain_or_cutAt (raw : Bytes) :
    ¬ separator <:+: raw ∨ ∃ before after, CutAt separator raw before after := by
  cases found : Bytes.cut separator raw with
  | none => exact .inl (Bytes.cut_eq_none_iff.1 found)
  | some parts => exact .inr ⟨parts.1, parts.2, Bytes.cutAt_of_cut found⟩

/-- The parts of an example are those of a text that is cut at the first separator. -/
structure Divides (text : Bytes) (e : ExampleText) : Prop where
  raw : e.raw = text
  /-- if a result is expected, it stands behind the first separator, and the code before it -/
  present : ∀ x, e.expected = some x →
    ∃ before after, CutAt separator text before after ∧ Trims before e.code ∧ Trims after x
  /-- if none is expected, there is no separator, or nothing but white space behind it -/
  absent : e.expected = none →
    (¬ separator <:+: text ∧ Trims text e.code) ∨
    ∃ before after, CutAt separator text before after ∧ Trims before e.code ∧ Blank after

theorem divides_ofText (raw : Bytes) : Divides raw (ofText raw) := by
  rcases plain_or_cutAt raw with plain | ⟨before, after, at_⟩
  · rw [ofText_of_plain plain]
    exact ⟨rfl, nofun, fun _ => .inl ⟨plain, Bytes.trim_eq_iff.1 rfl⟩⟩
  · rw [ofText_of_cutAt at_]
    have code : Trims before before.trim := Bytes.trim_eq_iff.1 rfl
    exact ⟨rfl, fun x found => ⟨before, after, at_, code, (result?_eq_some_iff.1 found).1⟩,
      fun none => .inr ⟨before, after, at_, code, result?_eq_none_iff.1 none⟩⟩

/-! ## Canonical form -/

/-- An example is in canonical form. -/
structure Canonical (e : ExampleText) : Prop where
  code : Trimmed e.code
  plain : ¬ separator <:+: e.code
  expected : ∀ x, e.expected = some x → Trimmed x ∧ x ≠ []

theorem canonical_ofText (raw : Bytes) : (ofText raw).Canonical := by
  have trimmed (s : Bytes) : Trimmed s.trim := Bytes.trim_eq_self_iff.1 (Bytes.trim_trim s)
  rcases plain_or_cutAt raw with plain | ⟨before, after, at_⟩
  · rw [ofText_of_plain plain]
    exact ⟨trimmed raw, fun inside => plain (inside.trans (Bytes.trim_isInfix raw)), nofun⟩
  · rw [ofText_of_cutAt at_]
    refine ⟨trimmed before, fun inside => ?_, fun x found => ?_⟩
    · exact at_.plain (by decide) (inside.trans (Bytes.trim_isInfix before))
    · exact (result?_eq_some_iff.1 found).imp_left Trims.trimmed

/-- **An example in canonical form is read as it is written.** -/
theorem Canonical.ofText_render (canonical : e.Canonical) :
    ofText e.render = { e with raw := e.render } := by
  obtain ⟨code, expected, raw⟩ := e
  obtain ⟨trimmedCode, plain, trimmedResult⟩ := canonical
  have sameCode := Bytes.trim_eq_self_iff.2 trimmedCode
  cases expected with
  | none =>
    rw [render, ofText_of_plain plain, sameCode]
  | some x =>
    obtain ⟨trimmed, something⟩ := trimmedResult x rfl
    have blank : Blank [Bytes.space] := by decide +kernel
    have written : render ⟨code, some x, raw⟩
        = code ++ Bytes.space :: (separator ++ Bytes.space :: x) := List.append_assoc ..
    have result : result? (Bytes.space :: x) = some x := by
      refine result?_eq_some_iff.2 ⟨⟨trimmed, [Bytes.space], [], blank, Bytes.blank_nil, ?_⟩, something⟩
      rw [List.append_nil, List.singleton_append]
    rw [written, ofText_of_cutAt (Bytes.cutAt_append_cons (by decide) plain _),
      Bytes.trim_append_blank _ blank, sameCode, result]

/-- **Every text is read as an example in canonical form**, divided at the first separator.  Written down
in this form, it is read as the same example. -/
theorem ofText_canonical (raw : Bytes) :
    (ofText raw).Canonical ∧ Divides raw (ofText raw) ∧
    (ofText (ofText raw).render).code = (ofText raw).code ∧
    (ofText (ofText raw).render).expected = (ofText raw).expected := by
  have canonical := canonical_ofText raw
  rw [canonical.ofText_render]
  exact ⟨canonical, divides_ofText raw, rfl, rfl⟩

/-- Of three slashes in a row the last one belongs to the result.  A slash that ends a code is no part
of a separator that stands further on. -/
example : ofText (utf8 "\u2003a/ b / /// c // d\u00a0")
    = ⟨utf8 "a/ b /", some (utf8 "/ c // d"), utf8 "\u2003a/ b / /// c // d\u00a0"⟩ := by decide +kernel

end ExampleText

end Marginalia
