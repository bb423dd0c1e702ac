import Marginalia.Text.Bytes

/-!
# Reading MessagePack

Reads the value at the beginning of some bytes into a tree.  Texts and other bytes
are not told apart, because they are accepted for each other; numbers that are not
integers, and values of kinds that applications define, keep no content.
-/

namespace Marginalia.MessagePack

set_option autoImplicit false

/-- A value that was read. -/
inductive Pack where
  | nil
  | bool (b : Bool)
  | int (n : Int)
  | raw (s : Bytes)
  | array (items : List Pack)
  | map (entries : List (Pack × Pack))
  | other
  deriving Repr, Inhabited

/-- The number in the first `width` bytes, most significant first, and what follows. -/
def natFrom : (width acc : Nat) → Bytes → Option (Nat × Bytes)
  | 0, acc, rest => some (acc, rest)
  | _ + 1, _, [] => none
  | width + 1, acc, b :: rest => natFrom width (acc * 256 + b.toNat) rest

/-- A number that is negative if its first bit is set. -/
def signed (width n : Nat) : Int :=
  if n < Nat.pow 2 (8 * width - 1) then n else (n : Int) - (Nat.pow 2 (8 * width) : Nat)

/-- The first `n` bytes and what follows. -/
def takeExactly (n : Nat) (s : Bytes) : Option (Bytes × Bytes) :=
  if n ≤ s.length then some (s.take n, s.drop n) else none

/-- What the first byte of a value says about the rest of it. -/
inductive Head where
  | done (p : Pack)
  /-- an integer in so many bytes -/
  | number (width : Nat) (isSigned : Bool)
  /-- bytes, the number of which is given here or in so many bytes -/
  | rawOf (n : Nat)
  | rawIn (width : Nat)
  | arrayOf (n : Nat)
  | arrayIn (width : Nat)
  | mapOf (n : Nat)
  | mapIn (width : Nat)
  /-- something without content here, in so many bytes -/
  | skip (n : Nat)
  /-- something without content here, the length of which is in so many bytes, and one byte more -/
  | skipIn (width : Nat)
  deriving Repr, Inhabited

/-- The meaning of a first byte. -/
def headOf (b : UInt8) : Option Head :=
  let n := b.toNat
  -- Small numbers and lengths stand in the first byte itself; 0xC1 means nothing.
  if n < 0x80 then some (.done (.int n))
  else if n < 0x90 then some (.mapOf (n - 0x80))
  else if n < 0xA0 then some (.arrayOf (n - 0x90))
  else if n < 0xC0 then some (.rawOf (n - 0xA0))
  else if 0xE0 ≤ n then some (.done (.int ((n : Int) - 256)))
  else
    match n with
    | 0xC0 => some (.done .nil)
    | 0xC2 => some (.done (.bool false))
    | 0xC3 => some (.done (.bool true))
    | 0xC4 => some (.rawIn 1)
    | 0xC5 => some (.rawIn 2)
    | 0xC6 => some (.rawIn 4)
    | 0xC7 => some (.skipIn 1)
    | 0xC8 => some (.skipIn 2)
    | 0xC9 => some (.skipIn 4)
    | 0xCA => some (.skip 4)
    | 0xCB => some (.skip 8)
    | 0xCC => some (.number 1 false)
    | 0xCD => some (.number 2 false)
    | 0xCE => some (.number 4 false)
    | 0xCF => some (.number 8 false)
    | 0xD0 => some (.number 1 true)
    | 0xD1 => some (.number 2 true)
    | 0xD2 => some (.number 4 true)
    | 0xD3 => some (.number 8 true)
    | 0xD4 => some (.skip 2)
    | 0xD5 => some (.skip 3)
    | 0xD6 => some (.skip 5)
    | 0xD7 => some (.skip 9)
    | 0xD8 => some (.skip 17)
    | 0xD9 => some (.rawIn 1)
    | 0xDA => some (.rawIn 2)
    | 0xDB => some (.rawIn 4)
    | 0xDC => some (.arrayIn 2)
    | 0xDD => some (.arrayIn 4)
    | 0xDE => some (.mapIn 2)
    | 0xDF => some (.mapIn 4)
    | _ => none

mutual

/-- The value at the beginning, and what follows it. -/
def value? : (fuel : Nat) → Bytes → Option (Pack × Bytes)
  | 0, _ => none
  | _ + 1, [] => none
  | fuel + 1, b :: rest =>
    match headOf b with
    | none => none
    | some (.done p) => some (p, rest)
    | some (.number width isSigned) =>
      (natFrom width 0 rest).map fun r => (.int (if isSigned then signed width r.1 else r.1), r.2)
    | some (.rawOf n) => (takeExactly n rest).map fun r => (.raw r.1, r.2)
    | some (.rawIn width) =>
      (natFrom width 0 rest).bind fun r => (takeExactly r.1 r.2).map fun r => (.raw r.1, r.2)
    | some (.arrayOf n) => (values? fuel n rest).map fun r => (.array r.1, r.2)
    | some (.arrayIn width) =>
      (natFrom width 0 rest).bind fun r => (values? fuel r.1 r.2).map fun r => (.array r.1, r.2)
    | some (.mapOf n) => (entries? fuel n rest).map fun r => (.map r.1, r.2)
    | some (.mapIn width) =>
      (natFrom width 0 rest).bind fun r => (entries? fuel r.1 r.2).map fun r => (.map r.1, r.2)
    | some (.skip n) => (takeExactly n rest).map fun r => (.other, r.2)
    | some (.skipIn width) =>
      (natFrom width 0 rest).bind fun r => (takeExactly (r.1 + 1) r.2).map fun r => (.other, r.2)

/-- So many values. -/
def values? : (fuel n : Nat) → Bytes → Option (List Pack × Bytes)
  | _, 0, rest => some ([], rest)
  | 0, _ + 1, _ => none
  | fuel + 1, n + 1, rest =>
    (value? fuel rest).bind fun r => (values? fuel n r.2).map fun s => (r.1 :: s.1, s.2)

/-- So many pairs of values. -/
def entries? : (fuel n : Nat) → Bytes → Option (List (Pack × Pack) × Bytes)
  | _, 0, rest => some ([], rest)
  | 0, _ + 1, _ => none
  | fuel + 1, n + 1, rest =>
    (value? fuel rest).bind fun k => (value? fuel k.2).bind fun v =>
      (entries? fuel n v.2).map fun s => ((k.1, v.1) :: s.1, s.2)

end

/-- The first value; what follows it is not looked at. -/
def first? (s : Bytes) : Option Pack := (value? (2 * s.length + 2) s).map Prod.fst

/-! ## Typed values

A place may be written more than once, because a name may stand more than once in a
map.  Writing a record changes only the fields that it names, and writing a list
keeps what the elements at the same positions were.  So a value is read from
everything that was written to its place, the oldest first.  Nothing, written to a
place, clears it. -/

namespace Pack

/-- An integer of 64 bits; nothing counts as zero. -/
def int? : Pack → Option Int
  | .nil => some 0
  | .int n => some (Int.bmod n UInt64.size)
  | _ => none

/-- A number of 16 bits, of which only the lowest bits count. -/
def word? : Pack → Option UInt16
  | .nil => some 0
  | .int n => some (UInt16.ofNat (n % 65536).toNat)
  | _ => none

/-- A text; nothing counts as the empty one. -/
def raw? : Pack → Option Bytes
  | .nil => some []
  | .raw s => some s
  | _ => none

/-- Something that may be missing. -/
def optional {α : Type} (read : Pack → Option α) : Pack → Option (Option α)
  | .nil => some none
  | p => (read p).map some

/-- What is written to the fields of a record: a map from names, of which others are ignored, or
the values of all fields in order; nothing and the list without values clear every field. -/
def entries (fields : List String) : Pack → Option (List (Bytes × Pack))
  | .nil => some (fields.map fun f => (utf8 f, .nil))
  | .map entries => entries.mapM fun e => (e.1.raw?).map (·, e.2)
  | .array items =>
    if items.isEmpty then some (fields.map fun f => (utf8 f, .nil))
    else if items.length = fields.length then some ((fields.map utf8).zip items)
    else none
  | _ => none

end Pack

/-- What was written to one place, the oldest first. -/
abbrev Writes := List Pack

namespace Writes

/-- The value that was written last, or a default; all of them must be readable. -/
def latest {α : Type} (read : Pack → Option α) (default : α) (ws : Writes) : Option α :=
  (ws.mapM read).map fun vs => vs.getLast?.getD default

/-- The writes to the fields of a record. -/
def record (fields : List String) (ws : Writes) : Option (List (Bytes × Pack)) :=
  (ws.mapM (Pack.entries fields)).map List.flatten

/-- The writes to each of some positions, after a list was written over them. -/
def overlay : List Writes → List Pack → List Writes
  | places, [] => places
  | [], items => items.map fun p => [p]
  | ws :: places, p :: items => (ws ++ [p]) :: overlay places items

/-- The positions of a list, with their writes, and the number of elements, after one write more.
A shorter list leaves the positions after its end as they were. -/
def extend : List Writes × Nat → Pack → Option (List Writes × Nat)
  | (places, _), .nil => some (places.map (· ++ [.nil]), 0)
  | (places, _), .array items => some (overlay places items, items.length)
  | _, _ => none

/-- A list of elements. -/
def list {α : Type} (read : Writes → Option α) (ws : Writes) : Option (List α) := do
  let (places, n) ← ws.foldlM extend ([], 0)
  return (← places.mapM read).take n

end Writes

/-- The writes to the field with a name. -/
def field (entries : List (Bytes × Pack)) (name : String) : Writes :=
  (entries.filter fun e => e.1 = utf8 name).map Prod.snd

def Writes.text (ws : Writes) : Option Bytes := ws.latest Pack.raw? []

def Writes.integer (ws : Writes) : Option Int := ws.latest Pack.int? 0

def Writes.text? (ws : Writes) : Option (Option Bytes) := ws.latest (Pack.optional Pack.raw?) none

def Writes.integer? (ws : Writes) : Option (Option Int) := ws.latest (Pack.optional Pack.int?) none

end Marginalia.MessagePack
