import Mathlib.Data.List.Perm.Basic

/-!
# Stable sorting

A list that is sorted by an order keeps the order in which tied elements came
(`filter_mergeSort`).  What stands in a sorted list before everything else is therefore
known from the list alone, once it is known which elements these are
(`filter_append_filter`).
-/

namespace Marginalia.Stable

set_option autoImplicit false

variable {α : Type} {le : α → α → Bool}

/-- What is tied under an order keeps the order in which it came. -/
theorem filter_mergeSort {tied : α → Bool} {xs : List α}
    (trans : ∀ a b c, le a b = true → le b c = true → le a c = true)
    (total : ∀ a b, (le a b || le b a) = true)
    (ties : ∀ a ∈ xs, ∀ b ∈ xs, tied a = true → tied b = true → le a b = true) :
    (xs.mergeSort le).filter tied = xs.filter tied := by
  have ordered : (xs.filter tied).Pairwise fun a b => le a b = true := by
    refine List.pairwise_of_forall_mem_list fun a first b second => ?_
    obtain ⟨member, tie⟩ := List.mem_filter.1 first
    obtain ⟨member', tie'⟩ := List.mem_filter.1 second
    exact ties a member b member' tie tie'
  have kept : ((xs.filter tied).filter tied).Sublist ((xs.mergeSort le).filter tied) :=
    (List.sublist_mergeSort trans total ordered List.filter_sublist).filter tied
  rw [List.filter_filter, funext fun a => Bool.and_self (tied a)] at kept
  exact (kept.eq_of_length ((List.mergeSort_perm xs le).filter tied).length_eq.symm).symm

/-- Elements of a kind that has nothing of another kind before it come first. -/
theorem filter_append_filter {xs : List α} {first : α → Bool}
    (closed : xs.Pairwise fun a b => first b = true → first a = true) :
    xs.filter first ++ xs.filter (fun x => !first x) = xs := by
  induction xs with
  | nil => rfl
  | cons x xs ih =>
    obtain ⟨head, tail⟩ := List.pairwise_cons.1 closed
    by_cases here : first x = true
    · rw [List.filter_cons_of_pos here, List.filter_cons_of_neg (by simp [here]),
        List.cons_append, ih tail]
    · have none : xs.filter first = [] :=
        List.filter_eq_nil_iff.2 fun y member later => here (head y member later)
      have rest := ih tail
      rw [none, List.nil_append] at rest
      rw [List.filter_cons_of_neg here, List.filter_cons_of_pos (by simp [here]), none,
        List.nil_append, rest]

end Marginalia.Stable
