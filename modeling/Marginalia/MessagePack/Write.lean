import Marginalia.Text.Bytes

/-!
# Writing MessagePack

The bytes of numbers, texts, lists and maps.  Each is written in the shortest form
that fits it.  Lists and maps are put together from the bytes of their parts.
-/

namespace Marginalia.MessagePack

set_option autoImplicit false

/-- The lowest `width` bytes of a number, most significant first. -/
def bigEndian : (width n : Nat) → Bytes
  | 0, _ => []
  | width + 1, n => (n / 256 ^ width).toUInt8 :: bigEndian width n

def nil : Bytes := [0xC0]

/-- A natural number. -/
def nat (n : Nat) : Bytes :=
  if n < 128 then [n.toUInt8]
  else if n < 256 then 0xCC :: bigEndian 1 n
  else if n < 65536 then 0xCD :: bigEndian 2 n
  else if n < 4294967296 then 0xCE :: bigEndian 4 n
  else 0xCF :: bigEndian 8 n

/-- An integer of 64 bits. -/
def int : Int → Bytes
  | .ofNat n => nat n
  | .negSucc n =>
    if n < 32 then [(255 - n).toUInt8]
    else if n < 128 then 0xD0 :: bigEndian 1 (0xFF - n)
    else if n < 32768 then 0xD1 :: bigEndian 2 (0xFFFF - n)
    else if n < 2147483648 then 0xD2 :: bigEndian 4 (0xFFFFFFFF - n)
    else 0xD3 :: bigEndian 8 (0xFFFFFFFFFFFFFFFF - n)

/-- A number of 16 bits, always in two bytes. -/
def word (n : UInt16) : Bytes := 0xCD :: bigEndian 2 n.toNat

/-- A text. -/
def str (s : Bytes) : Bytes :=
  let n := s.length
  (if n < 32 then [(0xA0 + n).toUInt8]
   else if n < 256 then 0xD9 :: bigEndian 1 n
   else if n < 65536 then 0xDA :: bigEndian 2 n
   else 0xDB :: bigEndian 4 n) ++ s

/-- Bytes that are not a text. -/
def bin (s : Bytes) : Bytes :=
  let n := s.length
  (if n < 256 then 0xC4 :: bigEndian 1 n
   else if n < 65536 then 0xC5 :: bigEndian 2 n
   else 0xC6 :: bigEndian 4 n) ++ s

/-- A list of written values. -/
def array (items : List Bytes) : Bytes :=
  let n := items.length
  (if n < 16 then [(0x90 + n).toUInt8]
   else if n < 65536 then 0xDC :: bigEndian 2 n
   else 0xDD :: bigEndian 4 n) ++ items.flatten

/-- A map from names to written values; an entry without a value is left out. -/
def map (entries : List (String × Option Bytes)) : Bytes :=
  let present := entries.filterMap fun e => e.2.map fun v => str (utf8 e.1) ++ v
  let n := present.length
  (if n < 16 then [(0x80 + n).toUInt8]
   else if n < 65536 then 0xDE :: bigEndian 2 n
   else 0xDF :: bigEndian 4 n) ++ present.flatten

end Marginalia.MessagePack
