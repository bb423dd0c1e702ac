import Marginalia.Scan.Basic

/-!
# Regions and the comments they own

A declaration owns a region of the text: its documentation, its header and its
body.  A comment belongs to the smallest region that its start lies in.  Where
two regions of the same smallest size have different names, the comment belongs
to nobody.
-/

namespace Marginalia

set_option autoImplicit false

/-- The bytes from `start` up to, but not including, `stop`, owned by the declaration `name`. -/
structure Region where
  name : Bytes
  start : Nat
  stop : Nat
  deriving DecidableEq, Repr, Inhabited

/-- The offset of the first byte of a comment. -/
def Comment.offset (c : Comment) : Nat := c.start.toNat

/-- The offset after the last byte of a comment. -/
def Comment.ending (c : Comment) : Nat := c.stop.toNat

namespace Region

/-- The number of bytes in a region. -/
def size (r : Region) : Nat := r.stop - r.start

/-- Is the byte at an offset in the region? -/
def holds (r : Region) (offset : Nat) : Bool := r.start ≤ offset && offset < r.stop

/-- The regions by size, those of equal size in the order given. -/
def bySize (rs : List Region) : List Region := rs.mergeSort fun a b => a.size ≤ b.size

/-- The owner among the regions around an offset, which are given by size: the first, unless the second
is as small and has another name. -/
def ownerAmong : List Region → Option Bytes
  | [] => none
  | [r] => some r.name
  | r :: s :: _ => if s.size = r.size ∧ s.name ≠ r.name then none else some r.name

/-- The owner of what starts at an offset; the regions are given by size. -/
def ownerAt (sorted : List Region) (offset : Nat) : Option Bytes :=
  ownerAmong (sorted.filter (·.holds offset))

/-- Gives each comment the owner of its start; a comment without one stays as it is. -/
def assign (rs : List Region) (comments : List Comment) : List Comment :=
  let sorted := bySize rs
  comments.map fun c =>
    match ownerAt sorted c.offset with
    | some name => { c with owner := some name }
    | none => c

end Region

/-- The scan with the owners that the regions give to its comments. -/
def Scan.owned (scan : Scan) (rs : List Region) : Scan :=
  { scan with comments := Region.assign rs scan.comments }

end Marginalia
