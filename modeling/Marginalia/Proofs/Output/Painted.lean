import Marginalia.Output.Style
import Marginalia.Proofs.Text.Lines
import Mathlib.Data.List.Basic

/-!
# Numbers and painted texts

What stands in a line of output is said in the modules after this one without the
functions that print it.  They need two things for that: a number in its usual notation
(`Decimal.int_eq_utf8`), and a text that is shown in a style or as it is
(`Style.Painted`).

A style is put around a text by control sequences.  A terminal takes them for
instructions and shows the text alone, so which attributes they name is left open.
-/

namespace Marginalia

set_option autoImplicit false

/-! ## Numbers -/

theorem utf8_append (s t : String) : utf8 (s ++ t) = utf8 s ++ utf8 t := by
  rw [utf8, String.toList_append, List.flatMap_append]
  rfl

namespace Decimal

variable {n : Nat}

theorem toNat_of_mem_toDigits {c : Char} (member : c ∈ Nat.toDigits 10 n) :
    48 ≤ c.toNat ∧ c.toNat ≤ 57 :=
  Char.isDigit_iff_toNat.1 (Nat.isDigit_of_mem_toDigits (by decide) (by decide) member)

/-- **A natural number is written as it is shown.** -/
theorem nat_eq_utf8 (n : Nat) : nat n = utf8 (toString n) := by
  have digits : (toString n).toList = Nat.toDigits 10 n := String.toList_ofList
  have ascii : ∀ c ∈ Nat.toDigits 10 n, String.utf8EncodeChar c = [c.toNat.toUInt8] := by
    intro c member
    have small : c.val.toNat ≤ 0x7f := Nat.le_trans (toNat_of_mem_toDigits member).2 (by decide)
    simp only [String.utf8EncodeChar, small, if_true]
    rfl
  rw [nat, utf8, digits, List.map_eq_flatMap]
  exact (List.flatMap_congr ascii).symm

/-- **So is an integer.** -/
theorem int_eq_utf8 (n : Int) : int n = utf8 (toString n) := by
  cases n with
  | ofNat n => exact nat_eq_utf8 n
  | negSucc n =>
    have written : toString (Int.negSucc n) = "-" ++ toString (n + 1) := rfl
    rw [int, nat_eq_utf8, written, utf8_append]
    rfl

theorem digit_of_mem_nat {b : UInt8} (member : b ∈ nat n) : b ∈ utf8 "0123456789" := by
  obtain ⟨c, among, rfl⟩ := List.mem_map.1 member
  obtain ⟨low, high⟩ := toNat_of_mem_toDigits among
  have digits : ∀ k ≤ 57, 48 ≤ k → k.toUInt8 ∈ utf8 "0123456789" := by decide
  exact digits c.toNat high low

end Decimal

/-! ## Styles -/

namespace Style

/-- A control sequence for attributes: numbers between an escape with a bracket and an `m`. -/
def IsSequence (s : Bytes) : Prop :=
  ∃ numbers, s = [27, 91] ++ numbers ++ utf8 "m" ∧ ∀ b ∈ numbers, b ∈ utf8 "0123456789;"

/-- How a text is shown, with styles or without: between two control sequences, or as it is. -/
inductive Painted : Bool → Bytes → Bytes → Prop
  | plain (text : Bytes) : Painted false text text
  | styled {before behind : Bytes} (text : Bytes) : IsSequence before → IsSequence behind →
      Painted true text (before ++ text ++ behind)

theorem isSequence_sequence (attributes : List Nat) : IsSequence (sequence attributes) := by
  refine ⟨_, rfl, fun b member => ?_⟩
  by_contra other
  refine Bytes.notMem_join (b := b) ?_ ?_ member
  · rintro semicolon
    exact other (List.mem_singleton.1 semicolon ▸ by decide)
  · intro number among digit
    obtain ⟨n, -, rfl⟩ := List.mem_map.1 among
    have digits : utf8 "0123456789" ⊆ utf8 "0123456789;" := by decide
    exact other (digits (Decimal.digit_of_mem_nat digit))

/-- **Whatever the style, it is the text that is shown.** -/
theorem painted_paint (on : Bool) (s : Style) (text : Bytes) : Painted on text (s.paint on text) := by
  rw [paint]
  cases on with
  | false => exact .plain text
  | true => exact .styled text (isSequence_sequence _) (isSequence_sequence _)

end Style

end Marginalia
