import Marginalia.Proofs.Text.Utf8
import Marginalia.Text.Normal

/-!
# Normal form keeps the lines

Putting a text into composed normal form changes which bytes it has, but not how
many of them are newlines, so lines are counted alike before and after.

The number of newlines is a weight on pieces that every step keeps.  Characters
that are decomposed or composed are no control characters and neither is what
becomes of them, so all of them weigh nothing; putting marks in order and closing
a segment only move pieces.
-/

namespace Marginalia

set_option autoImplicit false

/-! ## The weight of pieces -/

/-- The number of newlines in what pieces are written as. -/
def newlines (ps : List Piece) : Nat := (Utf8.encode ps).count Bytes.newline

@[simp] theorem newlines_nil : newlines [] = 0 := rfl

@[simp] theorem newlines_append (ps qs : List Piece) :
    newlines (ps ++ qs) = newlines ps + newlines qs := by
  simp [newlines, Utf8.encode]

theorem newlines_cons (p : Piece) (ps : List Piece) :
    newlines (p :: ps) = newlines [p] + newlines ps :=
  newlines_append [p] ps

theorem newline_ne_ofNat {n : Nat} (small : n < 256) (ne : n ≠ 10) :
    Bytes.newline ≠ UInt8.ofNat n := by
  intro same
  have value : 10 = n % 256 := congrArg UInt8.toNat same
  omega

namespace Normal

/-! ## Characters -/

/-- Only a control character is written with a newline. -/
theorem newlines_char {c : Char} (h : isControl c = false) : newlines [.char c] = 0 := by
  have above : ¬ c.val.toNat < 0x20 := of_decide_eq_false h
  have absent : Bytes.newline ∉ String.utf8EncodeChar c := by
    intro member
    unfold String.utf8EncodeChar at member
    generalize c.val.toNat = v at above member
    have tail : ∀ n, Bytes.newline ≠ UInt8.ofNat (n % 0x40 + 0x80) := fun n =>
      newline_ne_ofNat (by omega) (by omega)
    simp only at member
    split at member
    · exact newline_ne_ofNat (by omega) (by omega) (List.mem_singleton.1 member)
    · split at member
      · have head := @newline_ne_ofNat (v / 64 % 0x20 + 0xc0) (by omega) (by omega)
        simp only [List.mem_cons, List.not_mem_nil, or_false, head, tail] at member
      · split at member
        · have head := @newline_ne_ofNat (v / 4096 % 0x10 + 0xe0) (by omega) (by omega)
          simp only [List.mem_cons, List.not_mem_nil, or_false, head, tail] at member
        · have head := @newline_ne_ofNat (v / 262144 % 0x08 + 0xf0) (by omega) (by omega)
          simp only [List.mem_cons, List.not_mem_nil, or_false, head, tail] at member
  simpa [newlines, Utf8.encode, Piece.bytes] using List.count_eq_zero.2 absent

theorem newlines_chars {cs : List Char} (h : cs.any isControl = false) :
    newlines (cs.map .char) = 0 := by
  induction cs with
  | nil => rfl
  | cons c cs ih =>
    simp only [List.any_cons, Bool.or_eq_false_iff] at h
    rw [List.map_cons, newlines_cons, newlines_char h.1, ih h.2]

/-- What passes a guard does. -/
theorem of_guard {α : Type} (bad : α → Bool) {x y : α}
    (h : (if bad x = true then none else some x) = some y) : bad y = false := by
  split at h
  · cases h
  · rename_i good
    rw [← Option.some.inj h]
    exact Bool.eq_false_iff.2 good

/-- What is decomposed is no control character, and neither is a part of it. -/
theorem not_isControl_of_decomposition? {c : Char} {parts : List Char}
    (h : decomposition? c = some parts) : isControl c = false ∧ parts.any isControl = false := by
  unfold decomposition? at h
  extract_lets n i syllable joined at h
  -- the table is of no interest here, and looking into it would take long
  generalize Unicode.decompositions.find? n = row at h
  clear_value joined
  by_cases control : isControl c = true
  · rw [if_pos control] at h
    cases h
  · refine ⟨Bool.eq_false_iff.2 control, ?_⟩
    rw [if_neg control] at h
    split at h
    · exact of_guard (fun parts => List.any parts isControl) h
    · cases row with
      | none => cases h
      | some row => exact of_guard (fun parts => List.any parts isControl) h

theorem newlines_decomposeChar (fuel : Nat) (c : Char) :
    newlines ((decomposeChar fuel c).map .char) = newlines [.char c] := by
  induction fuel generalizing c with
  | zero => rfl
  | succ fuel ih =>
    rw [decomposeChar]
    split
    · rename_i parts found
      obtain ⟨whole, parted⟩ := not_isControl_of_decomposition? found
      have spread : ∀ cs : List Char,
          newlines ((cs.flatMap (decomposeChar fuel)).map .char) = newlines (cs.map .char) := by
        intro cs
        induction cs with
        | nil => rfl
        | cons c cs ihc =>
          rw [List.flatMap_cons, List.map_append, newlines_append, ih, ihc]
          exact (newlines_cons (.char c) (cs.map .char)).symm
      rw [spread, newlines_chars parted, newlines_char whole]
    · rfl

theorem newlines_decompose (p : Piece) : newlines (decompose p) = newlines [p] := by
  cases p with
  | char c => exact newlines_decomposeChar _ c
  | stray b => rfl

/-- A rule composes control characters neither from others nor with others. -/
def Harmless (rule : Char → Char → Option Char) : Prop :=
  ∀ ⦃a b c : Char⦄, rule a b = some c →
    isControl a = false ∧ isControl b = false ∧ isControl c = false

theorem harmless_composeChars : Harmless composeChars := by
  intro a b c h
  unfold composeChars at h
  generalize compositions.find? (pairKey a.toNat b.toNat) = row at h
  by_cases control : (isControl a || isControl b) = true
  · rw [if_pos control] at h
    cases h
  · rw [if_neg control] at h
    simp only [Bool.or_eq_true, not_or, Bool.not_eq_true] at control
    cases row with
    | none => cases h
    | some row => exact ⟨control.1, control.2, of_guard isControl h⟩

theorem isControl_eq_false {c : Char} (h : 0x20 ≤ c.toNat) : isControl c = false :=
  decide_eq_false (Nat.not_lt.2 h)

theorem isControl_ofNat {n : Nat} (low : 0x20 ≤ n) (high : n < 0xD800) :
    isControl (Char.ofNat n) = false := by
  have valid : n.isValidChar := .inl high
  have value : (Char.ofNat n).toNat = n := by
    rw [Char.ofNat, dif_pos valid]
    rfl
  exact isControl_eq_false (by rw [value]; exact low)

theorem harmless_composeHangul : Harmless composeHangul := by
  intro a b c h
  unfold composeHangul isSyllable syllableBase leadBase vowelBase tailBase at h
  extract_lets m n at h
  split at h
  · rename_i bounds
    simp only [Bool.and_eq_true, decide_eq_true_eq] at bounds
    rw [← Option.some.inj h]
    exact ⟨isControl_eq_false (by omega), isControl_eq_false (by omega),
      isControl_ofNat (by omega) (by omega)⟩
  · split at h
    · rename_i bounds
      simp only [Bool.and_eq_true, decide_eq_true_eq, beq_iff_eq] at bounds
      rw [← Option.some.inj h]
      exact ⟨isControl_eq_false (by omega), isControl_eq_false (by omega),
        isControl_ofNat (by omega) (by omega)⟩
    · cases h

theorem newlines_compose? {rule : Char → Char → Option Char} (harmless : Harmless rule)
    {p q r : Piece} (h : compose? rule p q = some r) :
    newlines [r] = newlines [p] + newlines [q] := by
  cases p with
  | stray b => cases h
  | char a =>
    cases q with
    | stray b => cases h
    | char b =>
      obtain ⟨c, found, rfl⟩ := Option.map_eq_some_iff.1 h
      obtain ⟨left, right, joined⟩ := harmless found
      rw [newlines_char left, newlines_char right, newlines_char joined]

/-! ## Segments -/

theorem newlines_insert (segment : List Piece) (p : Piece) :
    newlines (insert segment p) = newlines segment + newlines [p] := by
  unfold insert
  extract_lets k later
  split
  · exact newlines_append segment [p]
  · have behind : later <:+ segment := by
      rw [← List.reverse_prefix, List.reverse_reverse]
      exact List.takeWhile_prefix _
    clear_value later
    obtain ⟨front, rfl⟩ := behind
    simp only [List.length_append, Nat.add_sub_cancel, List.take_left', newlines_append]
    omega

namespace Composing

theorem newlines_keep (s : Composing) (p : Piece) :
    newlines (s.keep p).pieces = newlines s.pieces + newlines [p] := by
  simp only [pieces, keep, newlines_append]
  omega

theorem pieces_refocus (s : Composing) : s.refocus.pieces = s.pieces := by
  unfold refocus
  split
  · rfl
  · rename_i q last
    split
    · obtain ⟨front, kept⟩ := List.getLast?_eq_some_iff.1 last
      simp only [pieces, kept, List.dropLast_concat, List.append_assoc, List.cons_append,
        List.nil_append, List.append_nil]
    · rfl

theorem newlines_join {rule : Char → Char → Option Char} (harmless : Harmless rule)
    (s : Composing) (p : Piece) :
    newlines (s.join rule p).pieces = newlines s.pieces + newlines [p] := by
  rw [← pieces_refocus s]
  unfold join
  generalize s.refocus = t
  simp only
  split
  · exact newlines_keep t p
  · split
    · rename_i q composed
      have sum := newlines_compose? harmless composed
      simp only [pieces, newlines_append, sum]
      omega
    · exact newlines_keep t p

theorem newlines_foldl_join {rule : Char → Char → Option Char} (harmless : Harmless rule)
    (s : Composing) (ps : List Piece) :
    newlines (ps.foldl (join rule) s).pieces = newlines s.pieces + newlines ps := by
  induction ps generalizing s with
  | nil => rfl
  | cons p ps ih =>
    rw [List.foldl_cons, ih, newlines_join harmless, newlines_cons p ps, Nat.add_assoc]

theorem newlines_run (s : Composing) (ps : List Piece) :
    newlines (s.run ps).pieces = newlines s.pieces + newlines ps := by
  fun_induction run s ps with
  | case1 s => rfl
  | case2 s p ps jamo => exact newlines_foldl_join harmless_composeHangul s (p :: ps)
  | case3 s p ps other back ih =>
    rw [ih, newlines_join harmless_composeChars, newlines_cons p ps, Nat.add_assoc]
  | case4 s p ps other forward ih =>
    rw [ih, newlines_keep, newlines_cons p ps, Nat.add_assoc]

end Composing

theorem newlines_composeSegment (segment : List Piece) :
    newlines (composeSegment segment) = newlines segment := by
  cases segment with
  | nil => rfl
  | cons p ps =>
    rw [composeSegment, Composing.newlines_run, newlines_cons p ps]
    rfl

/-- One more part of a decomposition, wherever it goes. -/
theorem newlines_foldl_absorb (starts : Piece → Bool) (parts : List Piece)
    (made : List Piece × List Piece) :
    let after := parts.foldl (fun (finished, segment) q =>
      if starts q = true then (finished ++ composeSegment segment, [q])
      else (finished, insert segment q)) made
    newlines after.1 + newlines after.2 = newlines made.1 + newlines made.2 + newlines parts := by
  induction parts generalizing made with
  | nil => rfl
  | cons q parts ih =>
    obtain ⟨finished, segment⟩ := made
    simp only [List.foldl_cons]
    rw [ih, newlines_cons q parts]
    split
    · simp only [newlines_append, newlines_composeSegment]
      omega
    · simp only [newlines_insert]
      omega

/-- One more character adds its newlines to what is finished or to the segment in the making. -/
theorem newlines_absorb (finished segment : List Piece) (p : Piece) :
    newlines (absorb finished segment p).1 + newlines (absorb finished segment p).2
      = newlines finished + newlines segment + newlines [p] := by
  unfold absorb
  rw [← newlines_decompose p]
  split
  · rename_i q single
    simp only [single, newlines_insert]
    omega
  · exact newlines_foldl_absorb _ (decompose p) (finished, segment)

/-! ## Whole texts -/

theorem newlines_joiner : newlines [joiner] = 0 := by decide

theorem newlines_normalizeFrom (segment : List Piece) (count : Nat) (ps : List Piece) :
    newlines (normalizeFrom segment count ps) = newlines segment + newlines ps := by
  induction ps generalizing segment count with
  | nil => exact newlines_composeSegment segment
  | cons p ps ih =>
    rw [normalizeFrom, newlines_cons p ps]
    generalize attaching p = counts
    obtain ⟨lead, trail⟩ := counts
    have fresh := newlines_absorb [] [] p
    have grown := newlines_absorb [] segment p
    simp only [newlines_nil] at fresh grown ⊢
    split
    · simp only [newlines_append, newlines_composeSegment, newlines_joiner, ih]
      omega
    · split
      · simp only [newlines_append, newlines_composeSegment, ih]
        omega
      · simp only [newlines_append, ih]
        omega

end Normal

/-- **Normal form keeps the number of newlines.** -/
theorem Bytes.count_newline_compose (s : Bytes) :
    s.compose.count Bytes.newline = s.count Bytes.newline := by
  have same := Normal.newlines_normalizeFrom [] 0 ((Chunk.read s).1.flatMap Chunk.pieces)
  simp only [newlines_nil, Nat.zero_add] at same
  calc s.compose.count Bytes.newline
      = newlines (Normal.normalizeFrom [] 0 ((Chunk.read s).1.flatMap Chunk.pieces))
          + (Chunk.read s).2.count Bytes.newline := List.count_append ..
    _ = newlines ((Chunk.read s).1.flatMap Chunk.pieces)
          + (Chunk.read s).2.count Bytes.newline := by rw [same]
    _ = (Utf8.encode ((Chunk.read s).1.flatMap Chunk.pieces)
          ++ (Chunk.read s).2).count Bytes.newline := (List.count_append ..).symm
    _ = s.count Bytes.newline := by rw [Chunk.encode_read]

end Marginalia
