import Marginalia.Proofs.Text.Utf8
import Marginalia.Text.Cluster
import Mathlib.Algebra.GroupWithZero.Nat
import Mathlib.Data.List.Basic

/-!
# Clusters of a text

A text is its clusters, one after the other (`Bytes.flatten_clusters`).  What is kept
of a text that is cut to a width are the clusters at its beginning, as long as the next
one fits in (`Bytes.KeepsWithin`).
-/

namespace Marginalia

set_option autoImplicit false

/-! ## Cutting into clusters -/

section

variable {α : Type} (classOf : α → Unicode.GraphemeClass)

theorem growCluster_append (state : ClusterState) (items : List α) :
    (growCluster classOf state items).1 ++ (growCluster classOf state items).2 = items := by
  induction items generalizing state with
  | nil => rfl
  | cons a rest ih =>
    rw [growCluster]
    split
    · simp [ih]
    · rfl

theorem flatten_clusters (items : List α) : (clusters classOf items).flatten = items := by
  fun_induction clusters classOf items with
  | case1 => rfl
  | case2 a rest ih => rw [List.flatten_cons, ih, List.cons_append, growCluster_append]

end

theorem flatten_appendToLast (left : Bytes) (texts : List Bytes) :
    (appendToLast left texts).flatten = texts.flatten ++ left := by
  fun_induction appendToLast left texts with
  | case1 empty => simp [List.isEmpty_iff.1 empty]
  | case2 filled => simp
  | case3 s => simp
  | case4 s rest more ih => simp [ih]

namespace Bytes

/-- **A text is its clusters.** -/
theorem flatten_clusters (s : Bytes) : s.clusters.flatten = s := by
  have bytes (chunks : List Chunk) :
      chunks.flatMap Chunk.bytes = Utf8.encode (chunks.flatMap Chunk.pieces) := by
    rw [Utf8.encode, List.flatMap_assoc]
    exact List.flatMap_congr fun c _ => c.encode_pieces.symm
  have whole := Chunk.encode_read s
  rw [clusters]
  generalize Chunk.read s = read at whole
  obtain ⟨chunks, left⟩ := read
  dsimp only at whole ⊢
  calc
    _ = (Marginalia.clusters Chunk.graphemeClass chunks).flatMap (·.flatMap Chunk.bytes) ++ left := by
        rw [flatten_appendToLast, List.flatMap_def]
    _ = chunks.flatMap Chunk.bytes ++ left := by
        rw [← List.flatMap_assoc, List.flatMap_id', Marginalia.flatten_clusters]
    _ = s := by rw [bytes, whole]

/-! ## Cutting to a width -/

/-- What is kept of a text in a width: the clusters at its beginning that fit into it together, up
to one that does not. -/
def KeepsWithin (width : Nat) (s kept : Bytes) : Prop :=
  ∃ before behind, s.clusters = before ++ behind ∧ kept = before.flatten ∧
    (before.map clusterWidth).sum ≤ width ∧
    ∀ c ∈ behind.head?, width < (before.map clusterWidth).sum + clusterWidth c

/-- What is kept is a beginning of the text. -/
theorem KeepsWithin.isPrefix {width : Nat} {s kept : Bytes} (keeps : KeepsWithin width s kept) :
    kept <+: s := by
  obtain ⟨before, behind, split, rfl, -, -⟩ := keeps
  have whole := congrArg List.flatten split
  rw [flatten_clusters, List.flatten_append] at whole
  exact ⟨behind.flatten, whole.symm⟩

theorem exists_fitting (width : Nat) (texts : List Bytes) :
    ∃ behind, texts = fitting width texts ++ behind ∧
      ((fitting width texts).map clusterWidth).sum ≤ width ∧
      ∀ c ∈ behind.head?, width < ((fitting width texts).map clusterWidth).sum + clusterWidth c := by
  induction texts generalizing width with
  | nil => exact ⟨[], rfl, Nat.zero_le _, by simp⟩
  | cons c rest ih =>
    rw [fitting]
    split
    case isTrue fits =>
      obtain ⟨behind, split, inside, next⟩ := ih (width - clusterWidth c)
      refine ⟨behind, congrArg (c :: ·) split, ?_, fun d first => ?_⟩
      · rw [List.map_cons, List.sum_cons]
        omega
      · have beyond := next d first
        rw [List.map_cons, List.sum_cons]
        omega
    case isFalse wide =>
      refine ⟨c :: rest, rfl, Nat.zero_le _, ?_⟩
      rintro d ⟨⟩
      simpa using wide

theorem keepsWithin_fitting (width : Nat) (s : Bytes) :
    KeepsWithin width s (fitting width s.clusters).flatten := by
  obtain ⟨behind, split, inside, next⟩ := exists_fitting width s.clusters
  exact ⟨_, behind, split, rfl, inside, next⟩

end Bytes

end Marginalia
