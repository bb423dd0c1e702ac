import Marginalia.Proofs.Text.Lines

/-!
# Beginnings, ends and parts of a text

Looking for a beginning or an end of a text is looking for a split of it.  A part
that ends with a byte, and does not have it before, lies at the end of a piece of
the text that this byte ends (`infix_concat_cut`, `infix_newline_iff`).

A text is cut at the first place where a separator stands (`cut_eq_some_iff`), so the
separator does not stand in what is before it (`CutAt.plain`).
-/

namespace Marginalia

set_option autoImplicit false

namespace Bytes

/-! ## Beginnings and ends -/

theorem after?_eq_none {p s : Bytes} (other : ¬ p <+: s) : after? p s = none := by
  rw [Option.eq_none_iff_forall_ne_some]
  intro rest found
  exact other ⟨rest, (after?_eq_some_iff.1 found).symm⟩

theorem startsWith_eq_false {p s : Bytes} (other : ¬ p <+: s) : startsWith p s = false := by
  rw [Bool.eq_false_iff]
  intro starts
  exact other (List.isPrefixOf_iff_prefix.1 starts)

theorem dropSuffix_append (s p : Bytes) : dropSuffix p (s ++ p) = s := by
  have ends : endsWith p (s ++ p) = true := List.isSuffixOf_iff_suffix.2 (List.suffix_append s p)
  rw [dropSuffix, if_pos ends, List.length_append, Nat.add_sub_cancel, List.take_left]

theorem dropSuffix_of_not_suffix {p s : Bytes} (other : ¬ p <:+ s) : dropSuffix p s = s := by
  have ends : ¬ endsWith p s = true := fun ends => other (List.isSuffixOf_iff_suffix.1 ends)
  rw [dropSuffix, if_neg ends]

theorem dropSuffix_prefix (p s : Bytes) : dropSuffix p s <+: s := by
  rw [dropSuffix]
  split
  · exact List.take_prefix _ _
  · exact List.prefix_refl s

/-- A beginning without a byte ends before the first place of that byte. -/
theorem prefix_of_prefix_append_cons {p s t : Bytes} {b : UInt8} (absent : b ∉ p)
    (starts : p <+: s ++ b :: t) : p <+: s := by
  rcases List.prefix_or_prefix_of_prefix starts (List.prefix_append s (b :: t)) with inside | beyond
  · exact inside
  · obtain ⟨more, rfl⟩ := beyond
    cases more with
    | nil => exact (List.append_nil s).symm ▸ List.prefix_refl s
    | cons c more =>
      have same := (List.cons_prefix_cons.1 ((List.prefix_append_right_inj s).1 starts)).1
      rw [same] at absent
      exact absurd (List.mem_append_right s List.mem_cons_self) absent

/-- What ends with a byte that is taken away once had it twice. -/
theorem suffix_dropSuffix_iff (b : UInt8) (s : Bytes) :
    [b] <:+ dropSuffix [b] s ↔ [b, b] <:+ s := by
  by_cases ends : [b] <:+ s
  · obtain ⟨t, rfl⟩ := ends
    rw [dropSuffix_append]
    constructor
    · rintro ⟨u, rfl⟩
      exact ⟨u, by simp⟩
    · rintro ⟨u, twice⟩
      have split : u ++ [b] ++ [b] = t ++ [b] := by
        rw [List.append_assoc]
        exact twice
      exact ⟨u, List.append_cancel_right split⟩
  · rw [dropSuffix_of_not_suffix ends]
    exact ⟨fun once => absurd once ends, fun twice =>
      absurd ((List.suffix_append [b] [b]).trans twice) ends⟩

/-- A word that shares no byte with what stands before a text is at its end or not there. -/
theorem suffix_append_iff {word s : Bytes} (apart : ∀ b ∈ word, b ∉ s) (t : Bytes) :
    word <:+ s ++ t ↔ word <:+ t := by
  constructor
  · intro ends
    rcases List.suffix_or_suffix_of_suffix ends (List.suffix_append s t) with inside | ⟨u, rfl⟩
    · exact inside
    · have inside : u <:+ s := List.suffix_append_self_iff.1 ends
      obtain rfl : u = [] := List.eq_nil_iff_forall_not_mem.2 fun b member =>
        apart b (List.mem_append_left t member) (inside.subset member)
      exact List.suffix_refl t
  · exact fun ends => ends.trans (List.suffix_append s t)

/-! ## Parts -/

/-- A word that shares no byte with what stands before a text is a part of the text or not there. -/
theorem infix_append_iff {word s : Bytes} (apart : ∀ b ∈ word, b ∉ s) (t : Bytes) :
    word <:+: s ++ t ↔ word <:+: t := by
  have absent {u : Bytes} (part : u ⊆ word) (inside : u ⊆ s) : u = [] :=
    List.eq_nil_iff_forall_not_mem.2 fun b member => apart b (part member) (inside member)
  rw [List.infix_append_iff]
  constructor
  · rintro (before | inside | ⟨u, v, rfl, ends, starts⟩)
    · rw [absent (List.Subset.refl word) before.subset]
      exact List.nil_infix
    · exact inside
    · rw [absent (List.subset_append_left u v) ends.subset, List.nil_append]
      exact starts.isInfix
  · exact fun inside => .inr (.inl inside)

variable {sep : UInt8} {word piece : Bytes}

/-- A word and the separator after it are found at the end of the first piece, or in what follows. -/
theorem infix_concat_cut (absent : sep ∉ word) (absent' : sep ∉ piece) (rest : Bytes) :
    word ++ [sep] <:+: piece ++ sep :: rest ↔ word <:+ piece ∨ word ++ [sep] <:+: rest := by
  have atEnd : word ++ [sep] <:+ piece ++ [sep] ↔ word <:+ piece := by
    rw [List.suffix_concat_iff]
    constructor
    · rintro (none | ⟨t, same, ends⟩)
      · simp at none
      · rwa [List.append_cancel_right same]
    · exact fun ends => .inr ⟨word, rfl, ends⟩
  have regroup : piece ++ sep :: rest = piece ++ [sep] ++ rest := by simp
  rw [regroup, List.infix_append_iff, List.infix_concat_iff, atEnd]
  constructor
  · rintro ((ends | inside) | follows | ⟨first, second, split, ends, starts⟩)
    · exact .inl ends
    · exact absurd (inside.mem (by simp)) absent'
    · exact .inr follows
    · -- a part that goes over the separator would have it before its end
      rcases List.suffix_concat_iff.1 ends with rfl | ⟨t, rfl, ends'⟩
      · rw [List.nil_append] at split
        exact .inr (split ▸ starts.isInfix)
      · rcases List.eq_nil_or_concat second with rfl | ⟨more, last, rfl⟩
        · rw [List.append_nil] at split
          exact .inl (List.append_cancel_right split ▸ ends')
        · rw [List.concat_eq_append, ← List.append_assoc] at split
          have inside : sep ∈ word := by
            rw [(List.append_inj' split rfl).1]
            simp
          exact absurd inside absent
  · rintro (ends | follows)
    · exact .inl (.inl ends)
    · exact .inr (.inl follows)

/-- **A word and a newline after it are found in a text exactly if some line that a newline ends has the
word at its end.** -/
theorem infix_newline_iff (absent : newline ∉ word) (s : Bytes) :
    word ++ [newline] <:+: s ↔
      ∃ i line, i < s.count newline ∧ s.lines[i]? = some line ∧ word <:+ line := by
  induction s using lines_induction with
  | oneLine s oneLine =>
    rw [List.count_eq_zero_of_not_mem oneLine]
    constructor
    · intro inside
      exact absurd (inside.mem (by simp)) oneLine
    · rintro ⟨_, _, none, -⟩
      exact absurd none (Nat.not_lt_zero _)
  | line piece rest absent' ih =>
    rw [infix_concat_cut absent absent', ih, lines_cut absent', count_newline_cut absent']
    constructor
    · rintro (ends | ⟨i, line, bound, here, ends⟩)
      · exact ⟨0, piece, Nat.succ_pos _, rfl, ends⟩
      · exact ⟨i + 1, line, Nat.succ_lt_succ bound, here, ends⟩
    · rintro ⟨i, line, bound, here, ends⟩
      cases i with
      | zero => exact .inl (Option.some.inj here ▸ ends)
      | succ i => exact .inr ⟨i, line, Nat.lt_of_succ_lt_succ bound, here, ends⟩

/-! ## The first place of a separator -/

section Cutting

variable {separator s before after : Bytes}

/-- A separator stands between two parts of a text, and at no earlier place. -/
structure CutAt (separator s before after : Bytes) : Prop where
  split : s = before ++ (separator ++ after)
  first : ∀ before' after', s = before' ++ (separator ++ after') → before.length ≤ before'.length

/-- There is only one first place. -/
theorem CutAt.unique {before' after' : Bytes} (here : CutAt separator s before after)
    (there : CutAt separator s before' after') : before = before' ∧ after = after' := by
  have length := Nat.le_antisymm (here.first _ _ there.split) (there.first _ _ here.split)
  obtain ⟨same, rest⟩ := List.append_inj (here.split.symm.trans there.split) length
  exact ⟨same, List.append_cancel_left rest⟩

/-- A separator does not stand before its first place. -/
theorem CutAt.plain (nonempty : separator ≠ []) (at_ : CutAt separator s before after) :
    ¬ separator <:+: before := by
  rintro ⟨u, v, rfl⟩
  have earlier := at_.first u (v ++ (separator ++ after)) (by rw [at_.split]; simp)
  rw [List.length_append, List.length_append] at earlier
  have positive := List.length_pos_iff.2 nonempty
  omega

theorem cutAt_of_cut (found : cut separator s = some (before, after)) :
    CutAt separator s before after := by
  refine ⟨(eq_of_cut found).trans (List.append_assoc ..), ?_⟩
  induction s generalizing before with
  | nil =>
    intro before' after' _
    have nothing := congrArg List.length (eq_of_cut found)
    rw [List.length_append, List.length_append, List.length_nil] at nothing
    omega
  | cons b s ih =>
    intro before' after' split
    rw [cut] at found
    cases starts : after? separator (b :: s) with
    | some rest =>
      rw [starts] at found
      obtain ⟨rfl, -⟩ := Prod.mk.inj (Option.some.inj found)
      exact Nat.zero_le _
    | none =>
      rw [starts, Option.map_eq_some_iff] at found
      obtain ⟨⟨behind, after''⟩, found, same⟩ := found
      obtain ⟨rfl, rfl⟩ := Prod.mk.inj same
      cases before' with
      | nil =>
        -- the separator does not stand at the very beginning
        have begins : after? separator (b :: s) = some after' := after?_eq_some_iff.2 split
        rw [begins] at starts
        cases starts
      | cons c before' => exact Nat.succ_le_succ (ih found before' after' (List.cons.inj split).2)

theorem cut_eq_none_iff : cut separator s = none ↔ ¬ separator <:+: s := by
  induction s with
  | nil => simp [cut]
  | cons b s ih =>
    rw [List.infix_cons_iff, not_or, ← ih, cut]
    cases starts : after? separator (b :: s) with
    | some rest =>
      have begins : separator <+: b :: s := ⟨rest, (after?_eq_some_iff.1 starts).symm⟩
      simp [begins]
    | none =>
      have other : ¬ separator <+: b :: s := by
        rintro ⟨rest, split⟩
        rw [after?_eq_some_iff.2 split.symm] at starts
        cases starts
      simp [other]

/-- **A text is cut at the first place of the separator.** -/
theorem cut_eq_some_iff :
    cut separator s = some (before, after) ↔ CutAt separator s before after := by
  refine ⟨cutAt_of_cut, fun at_ => ?_⟩
  cases found : cut separator s with
  | none => exact absurd ⟨before, after, by rw [at_.split]; simp⟩ (cut_eq_none_iff.1 found)
  | some parts =>
    obtain ⟨before', after'⟩ := parts
    obtain ⟨rfl, rfl⟩ := (cutAt_of_cut found).unique at_
    rfl

/-- Behind a byte that it does not have, a separator stands at its first place if it does not stand
before that byte: it could only stand there with this byte in it. -/
theorem cutAt_append_cons {b : UInt8} (absent : b ∉ separator) (plain : ¬ separator <:+: s)
    (after : Bytes) : CutAt separator (s ++ b :: (separator ++ after)) (s ++ [b]) after := by
  have regroup : s ++ b :: (separator ++ after) = s ++ [b] ++ (separator ++ after) :=
    List.append_cons ..
  refine ⟨regroup, fun before' after' split => ?_⟩
  rw [regroup] at split
  rcases List.append_eq_append_iff.1 split with ⟨more, rfl, -⟩ | ⟨more, late, rest⟩
  · exact (List.prefix_append _ more).length_le
  · rcases List.eq_nil_or_concat more with rfl | ⟨more', last, rfl⟩
    · exact Nat.le_of_eq (congrArg List.length (late.trans (List.append_nil before')))
    · rw [List.concat_eq_append, ← List.append_assoc] at late
      obtain ⟨rfl, same⟩ := List.append_inj' late rfl
      obtain rfl := List.singleton_inj.1 same
      have starts : separator <+: more' ++ b :: (separator ++ after) :=
        ⟨after', by rw [rest]; simp⟩
      obtain ⟨more'', inside⟩ := prefix_of_prefix_append_cons absent starts
      exact absurd ⟨before', more'', by rw [← inside]; simp⟩ plain

end Cutting

end Bytes

end Marginalia
