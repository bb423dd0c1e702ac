import Marginalia.Text.Chunk
import Marginalia.Unicode.Cells
import Marginalia.Unicode.GraphemeClass

/-!
# Clusters and their width

A text is cut into clusters, the units that a reader takes for one character.  The
width of a cluster in cells is that of its first character that takes any; the
width of a text is the sum over its clusters.  A text that is too wide is cut
between clusters.
-/

namespace Marginalia

set_option autoImplicit false

open Unicode (GraphemeClass)

/-- How far a cluster has come on the way to a joined pictograph. -/
inductive Joining where
  | no
  /-- a pictograph, perhaps with marks -/
  | pictograph
  /-- that, and a joiner -/
  | joined
  deriving DecidableEq, Repr, Inhabited

/-- What is known of a cluster when the next character comes. -/
structure ClusterState where
  last : GraphemeClass
  /-- is the number of regional indicators at the end odd? -/
  oddRegional : Bool
  joining : Joining
  deriving DecidableEq, Repr, Inhabited

namespace ClusterState

/-- The state after the first character of a cluster. -/
def start (c : GraphemeClass) : ClusterState where
  last := c
  oddRegional := c == .regional
  joining := if c = .pictographic then .pictograph else .no

/-- The state after another character. -/
def next (s : ClusterState) (c : GraphemeClass) : ClusterState where
  last := c
  oddRegional := c == .regional && !s.oddRegional
  joining :=
    if c = .pictographic then .pictograph
    else if s.joining = .pictograph && c == .extend then .pictograph
    else if s.joining = .pictograph && c == .zwj then .joined
    else .no

/-- Is it a control character or a line end? -/
def isControl (c : GraphemeClass) : Bool := c == .control || c == .cr || c == .lf

/-- Does the next character belong to the cluster? -/
def joins (s : ClusterState) (c : GraphemeClass) : Bool :=
  -- In the order of the standard: line ends, controls, Hangul, marks, pictographs, flags.
  if s.last = .cr && c == .lf then true
  else if isControl s.last || isControl c then false
  else if s.last = .hangulL && (c == .hangulL || c == .hangulV || c == .hangulLV || c == .hangulLVT) then
    true
  else if (s.last = .hangulLV || s.last = .hangulV) && (c == .hangulV || c == .hangulT) then true
  else if (s.last = .hangulLVT || s.last = .hangulT) && c == .hangulT then true
  else if c == .extend || c == .zwj || c == .spacingMark then true
  else if s.last = .prepend then true
  else if s.joining = .joined && c == .pictographic then true
  else s.last = .regional && c == .regional && s.oddRegional

end ClusterState

/-- How far a cluster goes on: the items that join it, and the others. -/
def growCluster {α : Type} (classOf : α → GraphemeClass) : ClusterState → List α → List α × List α
  | _, [] => ([], [])
  | state, a :: rest =>
    if state.joins (classOf a) then
      let (joined, others) := growCluster classOf (state.next (classOf a)) rest
      (a :: joined, others)
    else ([], a :: rest)

theorem growCluster_length_le {α : Type} (classOf : α → GraphemeClass) (state : ClusterState)
    (items : List α) : (growCluster classOf state items).2.length ≤ items.length := by
  induction items generalizing state with
  | nil => simp [growCluster]
  | cons a rest ih =>
    unfold growCluster
    split
    · have := ih (state.next (classOf a))
      simp only [List.length_cons]
      omega
    · simp

/-- The clusters of a list of items. -/
def clusters {α : Type} (classOf : α → GraphemeClass) : List α → List (List α)
  | [] => []
  | a :: rest =>
    (a :: (growCluster classOf (.start (classOf a)) rest).1)
      :: clusters classOf (growCluster classOf (.start (classOf a)) rest).2
termination_by items => items.length
decreasing_by
  have := growCluster_length_le classOf (.start (classOf a)) rest
  simp only [List.length_cons]
  omega

/-- The class of a chunk. -/
def Chunk.graphemeClass : Chunk → GraphemeClass
  | .char c => Unicode.graphemeClass c.toNat
  | .broken _ => .other

/-- Puts bytes at the end of the last of several texts. -/
def appendToLast (left : Bytes) : List Bytes → List Bytes
  | [] => if left.isEmpty then [] else [left]
  | [s] => [s ++ left]
  | s :: rest => s :: appendToLast left rest

namespace Bytes

/-- The clusters of a text; what is left over at its end belongs to the last one. -/
def clusters (s : Bytes) : List Bytes :=
  let (chunks, left) := Chunk.read s
  appendToLast left
    ((Marginalia.clusters Chunk.graphemeClass chunks).map fun c => c.flatMap Chunk.bytes)

/-- The width of a cluster. -/
def clusterWidth (s : Bytes) : Nat :=
  (((Utf8.chars s).map fun c => Unicode.cells c.toNat).find? (0 < ·)).getD 0

/-- The width of a text in cells. -/
def cellWidth (s : Bytes) : Nat := s.clusters.foldl (fun n c => n + clusterWidth c) 0

/-- The clusters from the beginning that fit into a width. -/
def fitting : (width : Nat) → List Bytes → List Bytes
  | _, [] => []
  | width, c :: rest =>
    if clusterWidth c ≤ width then c :: fitting (width - clusterWidth c) rest else []

/-- Cuts a text that is wider than `width`, and puts `tail` at the cut. -/
def cutToWidth (width : Nat) (tail s : Bytes) : Bytes :=
  if cellWidth s ≤ width then s
  else if cellWidth tail ≤ width then
    (fitting (width - cellWidth tail) s.clusters).flatten ++ tail
  else tail

/-- Fills a text up with blanks. -/
def fillRight (width : Nat) (s : Bytes) : Bytes := s ++ List.replicate (width - cellWidth s) 32

end Bytes

end Marginalia
