import Mathlib.Data.List.Induction
import Marginalia.Notes.Basic
import Marginalia.Proofs.Order.Groups

/-!
# Owners divide the notes

The owners of notes are those of examples, in the order in which they are first seen, and
behind them those that only tech-debt notes have.  Each owner comes once, so the notes of
the owners, one owner after the other, are all notes: none is left out, none comes twice,
and those of one owner keep their order (`dividedByOwner`).

The owners are collected in one pass.  A name that comes behind the others is added if it
is not there yet (`firstSeen_concat`), and everything else here follows from this step.
-/

namespace Marginalia

set_option autoImplicit false

/-! ## Names in the order in which they are first seen -/

/-- A list has the given names, each once and in the order in which they are first seen. -/
structure FirstSeen (names order : List Bytes) : Prop where
  nodup : order.Nodup
  mem_iff : ∀ name, name ∈ order ↔ name ∈ names
  ordered : order.Pairwise fun a b => names.idxOf a < names.idxOf b

/-- **One name more**: it comes last, unless it is there already. -/
theorem firstSeen_concat (names : List Bytes) (name : Bytes) :
    firstSeen (names ++ [name])
      = if name ∈ firstSeen names then firstSeen names else firstSeen names ++ [name] := by
  rw [firstSeen, List.foldl_append, List.foldl_cons, List.foldl_nil, ← firstSeen]
  simp only [List.contains_iff_mem]

theorem FirstSeen.concat {names order : List Bytes} {name : Bytes} (seen : FirstSeen names order)
    (new : name ∉ order) : FirstSeen (names ++ [name]) (order ++ [name]) := by
  have new' : name ∉ names := fun member => new ((seen.mem_iff name).2 member)
  have same : ∀ a ∈ order, (names ++ [name]).idxOf a = names.idxOf a := fun a member =>
    List.idxOf_append_of_mem ((seen.mem_iff a).1 member)
  refine ⟨?_, ?_, ?_⟩
  · refine List.nodup_append.2 ⟨seen.nodup, List.pairwise_singleton _ _, ?_⟩
    rintro a member b last rfl
    exact new (List.mem_singleton.1 last ▸ member)
  · intro a
    rw [List.mem_append, List.mem_append, seen.mem_iff]
  · refine List.pairwise_append.2 ⟨?_, List.pairwise_singleton _ _, ?_⟩
    · refine seen.ordered.imp_of_mem fun {a b} member member' before => ?_
      rwa [same a member, same b member']
    · intro a member b last
      obtain rfl := List.mem_singleton.1 last
      rw [same a member, List.idxOf_append_of_notMem new']
      exact Nat.lt_add_right _ (List.idxOf_lt_length_of_mem ((seen.mem_iff a).1 member))

theorem FirstSeen.again {names order : List Bytes} {name : Bytes} (seen : FirstSeen names order)
    (old : name ∈ order) : FirstSeen (names ++ [name]) order := by
  refine ⟨seen.nodup, ?_, ?_⟩
  · intro a
    rw [List.mem_append, List.mem_singleton, seen.mem_iff]
    refine ⟨.inl, ?_⟩
    rintro (member | rfl)
    · exact member
    · exact (seen.mem_iff a).1 old
  · refine seen.ordered.imp_of_mem fun {a b} member member' before => ?_
    rwa [List.idxOf_append_of_mem ((seen.mem_iff a).1 member),
      List.idxOf_append_of_mem ((seen.mem_iff b).1 member')]

theorem firstSeen_firstSeen (names : List Bytes) : FirstSeen names (firstSeen names) := by
  induction names using List.reverseRecOn with
  | nil => exact ⟨List.nodup_nil, by simp [firstSeen], .nil⟩
  | append_singleton names name ih =>
    rw [firstSeen_concat]
    split
    case isTrue old => exact ih.again old
    case isFalse new => exact ih.concat new

/-- Of further names those come behind that were not seen before. -/
theorem firstSeen_append (names more : List Bytes) :
    firstSeen (names ++ more)
      = firstSeen names ++ firstSeen (more.filter fun name => name ∉ names) := by
  induction more using List.reverseRecOn with
  | nil => simp [firstSeen]
  | append_singleton more name ih =>
    have among : name ∈ firstSeen (names ++ more) ↔ name ∈ names ∨ name ∈ more := by
      rw [(firstSeen_firstSeen _).mem_iff, List.mem_append]
    rw [← List.append_assoc, firstSeen_concat, ih, List.filter_append]
    rw [ih] at among
    by_cases before : name ∈ names
    · have last : [name].filter (fun name => name ∉ names) = [] := by simp [before]
      rw [if_pos (among.2 (.inl before)), last, List.append_nil]
    · have further : name ∈ firstSeen (more.filter fun name => name ∉ names) ↔ name ∈ more := by
        rw [(firstSeen_firstSeen _).mem_iff, List.mem_filter]
        simp [before]
      have last : [name].filter (fun name => name ∉ names) = [name] := by simp [before]
      rw [last, firstSeen_concat]
      by_cases there : name ∈ more
      · rw [if_pos (among.2 (.inr there)), if_pos (further.2 there)]
      · rw [if_neg fun member => (among.1 member).elim before there,
          if_neg fun member => there (further.1 member), List.append_assoc]

/-! ## Owners -/

namespace Notes

/-- The owners of examples, one for each example. -/
def exampleOwners (n : Notes) : List Bytes := n.examples.map fun e => ownerName e.owner

/-- The owners of tech-debt notes, one for each note. -/
def debtOwners (n : Notes) : List Bytes := n.debts.map fun d => ownerName d.owner

theorem owners_eq (n : Notes) :
    n.owners = firstSeen n.exampleOwners
      ++ firstSeen (n.debtOwners.filter fun name => name ∉ n.exampleOwners) :=
  firstSeen_append _ _

theorem mem_owners (n : Notes) (name : Bytes) :
    name ∈ n.owners ↔ name ∈ n.exampleOwners ∨ name ∈ n.debtOwners := by
  rw [owners, (firstSeen_firstSeen _).mem_iff, List.mem_append]
  rfl

/-- The name of an owner is its own, and the empty one if there is no owner. -/
theorem ownerName_eq_iff (owner : Option Bytes) (name : Bytes) :
    ownerName owner = name ↔ owner = some name ∨ owner = none ∧ name = [] := by
  cases owner with
  | none => simp [ownerName, eq_comm]
  | some own => simp [ownerName]

/-- The owners of notes divide them. -/
structure DividedByOwner (n : Notes) : Prop where
  /-- no owner comes twice -/
  nodup : n.owners.Nodup
  /-- the owners of examples come first, in the order in which they are first seen; behind them come
  the other owners of tech-debt notes, in the order in which these are first seen -/
  order : ∃ first rest, n.owners = first ++ rest ∧ FirstSeen n.exampleOwners first ∧
    FirstSeen (n.debtOwners.filter fun name => name ∉ n.exampleOwners) rest
  /-- a name is that of an owner exactly if something has this owner; what has no owner counts under
  the empty name -/
  mem_iff : ∀ name, name ∈ n.owners ↔
    (∃ e ∈ n.examples, e.owner = some name ∨ e.owner = none ∧ name = []) ∨
    ∃ d ∈ n.debts, d.owner = some name ∨ d.owner = none ∧ name = []
  /-- the examples of the owners, one owner after the other, are all examples -/
  examples_perm : (n.owners.flatMap n.examplesOf).Perm n.examples
  /-- and those of one owner keep their order -/
  examples_order : SameByKey (fun e => ownerName e.owner) (n.owners.flatMap n.examplesOf) n.examples
  /-- the tech-debt notes of the owners, one owner after the other, are all tech-debt notes -/
  debts_perm : (n.owners.flatMap n.debtsOf).Perm n.debts
  /-- and those of one owner keep their order -/
  debts_order : SameByKey (fun d => ownerName d.owner) (n.owners.flatMap n.debtsOf) n.debts

/-- **The owners of notes divide them.** -/
theorem dividedByOwner (n : Notes) : n.DividedByOwner := by
  have nodup : n.owners.Nodup := (firstSeen_firstSeen _).nodup
  have examples : SameByKey (fun e => ownerName e.owner) (n.owners.flatMap n.examplesOf) n.examples :=
    sameByKey_groups nodup fun e member =>
      (n.mem_owners _).2 (.inl (List.mem_map_of_mem member))
  have debts : SameByKey (fun d => ownerName d.owner) (n.owners.flatMap n.debtsOf) n.debts :=
    sameByKey_groups nodup fun d member =>
      (n.mem_owners _).2 (.inr (List.mem_map_of_mem member))
  refine ⟨nodup, ⟨_, _, n.owners_eq, firstSeen_firstSeen _, firstSeen_firstSeen _⟩, ?_,
    examples.perm, examples, debts.perm, debts⟩
  intro name
  rw [mem_owners, exampleOwners, debtOwners, List.mem_map, List.mem_map]
  simp only [ownerName_eq_iff]

end Notes

end Marginalia
