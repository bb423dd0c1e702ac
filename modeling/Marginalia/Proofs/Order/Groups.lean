import Mathlib.Data.List.Perm.Basic

/-!
# Lists by key

Elements with a key fall into groups, one for each key.  Two lists agree by key if each
group has the same elements in the same order (`SameByKey`).  Then one is a reordering of
the other that moves no element past another one with its key (`SameByKey.perm`).

A list that is sorted by its keys is known from its groups (`SameByKey.eq_of_pairwise`).
The groups of a list, put together in whatever order, agree with it by key if no group
is left out and none comes twice (`sameByKey_groups`).
-/

namespace Marginalia

set_option autoImplicit false

variable {α β : Type} [DecidableEq β] {key : α → β} {xs ys : List α}

/-- Two lists have the same elements at each key, in the same order. -/
def SameByKey (key : α → β) (xs ys : List α) : Prop :=
  ∀ k, (xs.filter fun x => key x = k) = ys.filter fun x => key x = k

namespace SameByKey

theorem symm (same : SameByKey key xs ys) : SameByKey key ys xs := fun k => (same k).symm

theorem trans {zs : List α} (first : SameByKey key xs ys) (second : SameByKey key ys zs) :
    SameByKey key xs zs := fun k => (first k).trans (second k)

/-- What agrees by the keys of the images agrees when it is mapped. -/
theorem map {γ : Type} {f : γ → α} {us vs : List γ} (same : SameByKey (key ∘ f) us vs) :
    SameByKey key (us.map f) (vs.map f) := by
  intro k
  rw [List.filter_map, List.filter_map]
  exact congrArg (List.map f) (same k)

theorem tail {x : α} (same : SameByKey key (x :: xs) (x :: ys)) : SameByKey key xs ys := by
  intro k
  have both := same k
  by_cases here : key x = k
  · rw [List.filter_cons_of_pos (by simpa using here),
      List.filter_cons_of_pos (by simpa using here)] at both
    exact (List.cons.inj both).2
  · rwa [List.filter_cons_of_neg (by simpa using here),
      List.filter_cons_of_neg (by simpa using here)] at both

variable [DecidableEq α]

theorem perm (same : SameByKey key xs ys) : xs.Perm ys := by
  rw [List.perm_iff_count]
  intro x
  have group := congrArg (List.count x) (same (key x))
  rwa [List.count_filter (by simp), List.count_filter (by simp)] at group

/-- **Sorted lists that agree by key are equal.** -/
theorem eq_of_pairwise {r : β → β → Prop} (antisymm : ∀ k k', r k k' → r k' k → k = k')
    (same : SameByKey key xs ys) (sorted : xs.Pairwise fun a b => r (key a) (key b))
    (sorted' : ys.Pairwise fun a b => r (key a) (key b)) : xs = ys := by
  induction xs generalizing ys with
  | nil => exact same.perm.nil_eq
  | cons x xs ih =>
    cases ys with
    | nil => exact same.perm.eq_nil
    | cons y ys =>
      -- Each of the two heads stands in the other list, and nothing there comes before its head.
      have level : key x = key y := by
        rcases List.mem_cons.1 (same.perm.mem_iff.1 List.mem_cons_self) with first | later
        · rw [first]
        rcases List.mem_cons.1 (same.perm.mem_iff.2 List.mem_cons_self) with first | later'
        · rw [first]
        exact antisymm _ _ (List.rel_of_pairwise_cons sorted later')
          (List.rel_of_pairwise_cons sorted' later)
      have heads := same (key x)
      rw [List.filter_cons_of_pos (by simp), List.filter_cons_of_pos (by simp [level])] at heads
      obtain rfl : x = y := (List.cons.inj heads).1
      rw [ih same.tail sorted.of_cons sorted'.of_cons]

end SameByKey

/-! ## Groups put together -/

/-- Of the lists at different keys only the one at `k` is left, if it is there. -/
theorem flatMap_ite_eq {keys : List β} (nodup : keys.Nodup) (k : β) (group : List α) :
    (keys.flatMap fun k' => if k' = k then group else []) = if k ∈ keys then group else [] := by
  induction keys with
  | nil => rfl
  | cons k' keys ih =>
    obtain ⟨absent, nodup⟩ := List.nodup_cons.1 nodup
    rw [List.flatMap_cons, ih nodup]
    by_cases here : k' = k
    · subst here
      rw [if_pos rfl, if_neg absent, if_pos List.mem_cons_self, List.append_nil]
    · simp [here, Ne.symm here]

/-- **The groups of a list, put together, agree with it by key.** -/
theorem sameByKey_groups {keys : List β} (nodup : keys.Nodup) (all : ∀ x ∈ xs, key x ∈ keys) :
    SameByKey key (keys.flatMap fun k => xs.filter fun x => key x = k) xs := by
  intro k
  have group : ∀ k', ((xs.filter fun x => key x = k').filter fun x => key x = k)
      = if k' = k then xs.filter fun x => key x = k else [] := by
    intro k'
    rw [List.filter_filter]
    split
    case isTrue same =>
      subst same
      simp
    case isFalse apart =>
      refine List.filter_eq_nil_iff.2 fun x _ both => apart ?_
      simp only [Bool.and_eq_true, decide_eq_true_eq] at both
      exact both.2.symm.trans both.1
  simp only [List.filter_flatMap, group, flatMap_ite_eq nodup]
  split
  case isTrue => rfl
  case isFalse absent =>
    refine (List.filter_eq_nil_iff.2 fun x member here => absent ?_).symm
    simp only [decide_eq_true_eq] at here
    exact here ▸ all x member

end Marginalia
