import Marginalia.Owner.Decl
import Marginalia.Proofs.Source.Lines
import Mathlib.Data.List.Forall2

/-!
# Declarations in 32 bits

The offsets of a declaration are whole numbers here, and have 32 bits in the program:
where its line starts and ends, and where the line behind that ends.  The search of the
program is written down a second time with such offsets (`WordDecl.find`).  It gives up
at a line whose end cannot be counted, and leaves the end of the next line where it was if
that one cannot be.

The last two offsets go up to two beyond the length of the text, so in a text that is two
bytes shorter than what can be counted both searches find the same
(`WordDecl.counts_find`).
-/

namespace Marginalia

set_option autoImplicit false

/-- A declaration whose offsets have 32 bits. -/
structure WordDecl where
  name : Bytes
  line : Nat
  lineStart : UInt32
  lineEnd : UInt32
  headEnd : UInt32

namespace WordDecl

open Decl

variable {matchers : List LineMatcher} {content : Bytes} {comments : List Comment}

/-- The offset behind the end of the line of a text at an offset, or this offset if the one behind the
line is too great. -/
def lineStop (content : Bytes) (start : UInt32) : UInt32 :=
  let stop := start.toNat + ((content.drop start.toNat).takeWhile (· != Bytes.newline)).length + 1
  if stop < UInt32.size then stop.toUInt32 else start

/-- The declaration on a line of a text, if there is one. -/
def onLine (matchers : List LineMatcher) (content : Bytes) (comments : List Comment) (line : Nat)
    (start lineEnd : UInt32) (text : Bytes) : Option WordDecl :=
  if insideComment comments (start.toNat + indent text) then none
  else
    (nameOn matchers text).map fun found =>
      { name := found.2, line, lineStart := start, lineEnd, headEnd := lineStop content lineEnd }

/-- The declarations on the given lines of a text, as they are found by counting in 32 bits.  The first
line stands at the offset `place`, and starts at `start` as far as 32 bits can tell.  The search is
given up at a line whose end has no offset. -/
def onLines (matchers : List LineMatcher) (content : Bytes) (comments : List Comment) :
    (line : Nat) → (start : UInt32) → (place : Nat) → List Bytes → List WordDecl
  | _, _, _, [] => []
  | line, start, place, text :: rest =>
    if UInt32.size ≤ place + text.length then []
    else
      let lineEnd := (place + text.length).toUInt32 + 1
      (onLine matchers content comments line start lineEnd text).toList
        ++ onLines matchers content comments (line + 1) lineEnd (place + text.length + 1) rest

/-- The declarations of a text, found by counting in 32 bits. -/
def find (matchers : List LineMatcher) (content : Bytes) (comments : List Comment) : List WordDecl :=
  onLines matchers content comments 1 0 0 content.lines

/-- A declaration with offsets of 32 bits is one with whole numbers. -/
structure Counts (w : WordDecl) (d : Decl) : Prop where
  name : w.name = d.name
  line : w.line = d.line
  lineStart : w.lineStart.toNat = d.lineStart
  lineEnd : w.lineEnd.toNat = d.lineEnd
  headEnd : w.headEnd.toNat = d.headEnd

/-- In a text that is two bytes shorter than what can be counted, the declarations that are found by
counting in 32 bits are those that are found with whole numbers. -/
def Unwrapped (matchers : List LineMatcher) (content : Bytes) (comments : List Comment) : Prop :=
  content.length + 2 < UInt32.size →
    List.Forall₂ Counts (find matchers content comments) (Decl.find matchers content comments)

/-- What stands before the first newline is the first line. -/
theorem length_takeWhile_newline (s : Bytes) :
    (s.takeWhile (· != Bytes.newline)).length = s.lines.head?.elim 0 List.length := by
  induction s using Bytes.lines_induction with
  | oneLine s oneLine => rw [takeWhile_of_oneLine oneLine, Bytes.lines_of_oneLine oneLine]; rfl
  | line piece rest absent =>
    have all := List.takeWhile_eq_self_iff.1 (takeWhile_of_oneLine absent)
    rw [Bytes.lines_cut absent, List.takeWhile_append_of_pos all,
      List.takeWhile_cons_of_neg (by simp), List.append_nil]
    rfl

theorem toNat_succ {n : Nat} (short : n + 1 < UInt32.size) : (n.toUInt32 + 1).toNat = n + 1 := by
  have known : n.toUInt32.toNat = n := UInt32.toNat_ofNat_of_lt' (Nat.lt_of_succ_lt short)
  rw [UInt32.toNat_add, known, UInt32.toNat_one, Nat.mod_eq_of_lt short]

theorem toNat_lineStop {start : UInt32} {s : Bytes} (there : content.drop start.toNat = s)
    (short : start.toNat + s.length + 1 < UInt32.size) :
    (lineStop content start).toNat = start.toNat + (s.takeWhile (· != Bytes.newline)).length + 1 := by
  have shorter := (List.takeWhile_prefix (l := s) (· != Bytes.newline)).length_le
  have inside : start.toNat + (s.takeWhile (· != Bytes.newline)).length + 1 < UInt32.size := by omega
  simp only [lineStop]
  rw [there, if_pos inside]
  exact UInt32.toNat_ofNat_of_lt' inside

theorem counts_onLine {line : Nat} {start lineEnd : UInt32} {text : Bytes} {next : Option Bytes}
    (ends : lineEnd.toNat = start.toNat + text.length + 1)
    (head : (lineStop content lineEnd).toNat = lineEnd.toNat + next.elim 0 List.length + 1) :
    List.Forall₂ Counts (onLine matchers content comments line start lineEnd text).toList
      (Decl.onLine matchers comments line start.toNat text next).toList := by
  rw [onLine, Decl.onLine]
  split
  · exact .nil
  · cases nameOn matchers text with
    | none => exact .nil
    | some found => exact .cons ⟨rfl, rfl, rfl, ends, head.trans (by rw [ends])⟩ .nil

/-- **In 32 bits the same declarations are found** on the lines of what stands at the end of a text, if
the text and what is counted behind its end is short enough. -/
theorem counts_onLines (line : Nat) (start : UInt32) {s : Bytes}
    (there : content.drop start.toNat = s) (short : start.toNat + s.length + 2 < UInt32.size) :
    List.Forall₂ Counts (onLines matchers content comments line start start.toNat s.lines)
      (Decl.onLines matchers comments line start.toNat s.lines) := by
  induction s using Bytes.lines_induction generalizing line start with
  | oneLine s oneLine =>
    -- behind the end of the text there is an empty line, as far as the search can tell
    have stop := toNat_succ (n := start.toNat + s.length) (by omega)
    have behind : content.drop ((start.toNat + s.length).toUInt32 + 1).toNat = [] := by
      rw [stop, Nat.add_assoc, ← List.drop_drop, there]
      exact List.drop_eq_nil_of_le (Nat.le_succ _)
    rw [Bytes.lines_of_oneLine oneLine, onLines, if_neg (by omega), Decl.onLines]
    refine List.rel_append (counts_onLine stop ?_) .nil
    rw [toNat_lineStop behind (by rw [stop, List.length_nil]; omega)]
    rfl
  | line piece rest absent ih =>
    rw [List.length_append, List.length_cons] at short
    have stop := toNat_succ (n := start.toNat + piece.length) (by omega)
    have behind : content.drop ((start.toNat + piece.length).toUInt32 + 1).toNat = rest := by
      rw [stop, Nat.add_assoc, ← List.drop_drop, there, ← List.drop_drop, List.drop_left]
      rfl
    have later := ih (line + 1) _ behind (by rw [stop]; omega)
    rw [stop] at later
    rw [Bytes.lines_cut absent, onLines, if_neg (by omega), Decl.onLines]
    refine List.rel_append (counts_onLine stop ?_) later
    rw [toNat_lineStop behind (by rw [stop]; omega), length_takeWhile_newline]

/-- **Nothing wraps** in a text that is two bytes shorter than what can be counted. -/
theorem counts_find : Unwrapped matchers content comments := by
  intro short
  exact counts_onLines 1 0 rfl (by simpa using short)

end WordDecl

end Marginalia
