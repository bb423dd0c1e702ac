import Marginalia.Owner.Region
import Mathlib.Data.List.Perm.Basic

/-!
# The smallest region around a place

Regions are sorted by size before an owner is looked for.  So a region that holds
a place, and is smaller than every other one that does, comes first among those
that hold it and gives its name (`Region.ownerAt_of_smallest`).
-/

namespace Marginalia

set_option autoImplicit false

namespace Region

theorem perm_bySize (rs : List Region) : (bySize rs).Perm rs := List.mergeSort_perm rs _

theorem sizeLe_trans (a b c : Region) (first : decide (a.size ≤ b.size) = true)
    (second : decide (b.size ≤ c.size) = true) : decide (a.size ≤ c.size) = true :=
  decide_eq_true (Nat.le_trans (of_decide_eq_true first) (of_decide_eq_true second))

theorem sizeLe_total (a b : Region) :
    (decide (a.size ≤ b.size) || decide (b.size ≤ a.size)) = true := by
  simpa using Nat.le_total a.size b.size

theorem pairwise_bySize (rs : List Region) : (bySize rs).Pairwise fun a b => a.size ≤ b.size :=
  (List.pairwise_mergeSort sizeLe_trans sizeLe_total rs).imp of_decide_eq_true

/-- The owner among sorted regions, one of which is smaller than all others. -/
theorem ownerAmong_of_smallest {sorted others : List Region} {r : Region}
    (inOrder : sorted.Pairwise fun a b => a.size ≤ b.size) (same : sorted.Perm (r :: others))
    (smallest : ∀ s ∈ others, r.size < s.size) : ownerAmong sorted = some r.name := by
  cases sorted with
  | nil => exact absurd same.symm.eq_nil (List.cons_ne_nil _ _)
  | cons first rest =>
    have isFirst : first = r := by
      rcases List.mem_cons.1 (same.subset List.mem_cons_self) with here | other
      · exact here
      · have smaller := smallest first other
        rcases List.mem_cons.1 (same.symm.subset List.mem_cons_self) with here | later
        · exact here.symm
        · have := (List.pairwise_cons.1 inOrder).1 r later
          omega
    subst isFirst
    cases rest with
    | nil => rfl
    | cons second rest =>
      have larger := smallest second (same.cons_inv.subset List.mem_cons_self)
      rw [ownerAmong, if_neg]
      rintro ⟨equal, -⟩
      omega

/-- **The smallest region that holds a place owns it.** -/
theorem ownerAt_of_smallest {rs : List Region} {i : Nat} {r : Region} {offset : Nat}
    (here : rs[i]? = some r) (holds : r.holds offset = true)
    (smallest : ∀ j s, j ≠ i → rs[j]? = some s → s.holds offset = true → r.size < s.size) :
    ownerAt (bySize rs) offset = some r.name := by
  obtain ⟨inside, rfl⟩ := List.getElem?_eq_some_iff.1 here
  have same : ((bySize rs).filter (·.holds offset)).Perm
      (rs[i] :: (rs.eraseIdx i).filter (·.holds offset)) := by
    have split := (perm_bySize rs).trans (List.getElem_cons_eraseIdx_perm inside).symm
    have filtered := split.filter (·.holds offset)
    rwa [List.filter_cons, if_pos holds] at filtered
  refine ownerAmong_of_smallest ((pairwise_bySize rs).filter _) same ?_
  intro s member
  obtain ⟨other, held⟩ := List.mem_filter.1 member
  obtain ⟨j, differs, found⟩ := List.mem_eraseIdx_iff_getElem?.1 other
  exact smallest j s differs found held

end Region

end Marginalia
