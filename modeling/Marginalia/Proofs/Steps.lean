import Mathlib.Data.List.Basic

/-!
# Steps that may fail

What is done step by step succeeds exactly if each step does: two steps one after the
other (`bind_eq_ok_iff`), a refusal before the other steps (`refuse_eq_ok_iff`), and a
step for each element of a list, whose results are those for the elements by
themselves (`mapM_eq_ok_iff`).
-/

namespace Marginalia

set_option autoImplicit false

variable {α β ε : Type}

/-- **Two steps succeed if both of them do.** -/
theorem bind_eq_ok_iff {x : Except ε α} {f : α → Except ε β} {b : β} :
    x >>= f = .ok b ↔ ∃ a, x = .ok a ∧ f a = .ok b := by
  cases x with
  | error e => simp [bind, Except.bind]
  | ok a => simp [bind, Except.bind]

/-- Steps behind a refusal succeed if there is no reason to refuse and they do. -/
theorem refuse_eq_ok_iff {reason : Prop} [Decidable reason] {e : ε} {f : PUnit → Except ε β} {b : β} :
    (if reason then throw e >>= f else f ⟨⟩) = .ok b ↔ ¬ reason ∧ f ⟨⟩ = .ok b := by
  split
  next holds => exact ⟨nofun, fun done => absurd holds done.1⟩
  next none => exact ⟨fun done => ⟨none, done⟩, And.right⟩

/-- **A step for each element succeeds if each of the steps does.** -/
theorem mapM_eq_ok_iff [Inhabited β] {f : α → Except ε β} {xs : List α} {ys : List β} :
    xs.mapM f = .ok ys ↔ ∃ g : α → β, (∀ x ∈ xs, f x = .ok (g x)) ∧ ys = xs.map g := by
  constructor
  · intro done
    refine ⟨fun x => (f x).toOption.getD default, ?_⟩
    induction xs generalizing ys with
    | nil =>
      cases done
      exact ⟨by simp, rfl⟩
    | cons x xs ih =>
      rw [List.mapM_cons] at done
      obtain ⟨y, first, done⟩ := bind_eq_ok_iff.1 done
      obtain ⟨ys', rest, done⟩ := bind_eq_ok_iff.1 done
      obtain rfl := Except.ok.inj done
      obtain ⟨each, rfl⟩ := ih rest
      have first' : f x = .ok ((f x).toOption.getD default) := by
        conv => rhs; rw [first]
        exact first
      exact ⟨List.forall_mem_cons.2 ⟨first', each⟩, by rw [List.map_cons, first]; rfl⟩
  · rintro ⟨g, each, rfl⟩
    induction xs with
    | nil => rfl
    | cons x xs ih =>
      rw [List.forall_mem_cons] at each
      rw [List.mapM_cons, each.1, ih each.2]
      rfl

end Marginalia
