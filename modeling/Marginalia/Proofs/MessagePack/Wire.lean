import Marginalia.MessagePack.Read
import Marginalia.MessagePack.Write
import Mathlib.Data.List.Forall2
import Mathlib.Tactic.Ring

/-!
# Written values are read back

Some bytes spell a value if reading gives that value, whatever follows them
(`Spells`).  What is written for a number, a text, a list or a map spells it, in
every one of the forms that its size may ask for; lists and maps spell what their
parts spell.

Reading is bounded by a number of steps.  Two steps for each byte are enough: a
list takes a step for each of its elements besides those of the elements, and no
element is without bytes.
-/

namespace Marginalia.MessagePack

set_option autoImplicit false

/-! ## Numbers of fixed width -/

theorem bigEndian_succ (width n : Nat) :
    bigEndian (width + 1) n = (n / 256 ^ width).toUInt8 :: bigEndian width n :=
  rfl

theorem length_bigEndian (width n : Nat) : (bigEndian width n).length = width := by
  induction width with
  | zero => rfl
  | succ width ih => rw [bigEndian_succ, List.length_cons, ih]

/-- The lowest bytes of a number are read as what they leave of it. -/
theorem natFrom_bigEndian (width acc n : Nat) (rest : Bytes) :
    natFrom width acc (bigEndian width n ++ rest)
      = some (acc * 256 ^ width + n % 256 ^ width, rest) := by
  induction width generalizing acc with
  | zero =>
    have none : bigEndian 0 n = [] := rfl
    simp [natFrom, none, Nat.mod_one]
  | succ width ih =>
    have lead : (n / 256 ^ width).toUInt8.toNat = n / 256 ^ width % 256 := by simp
    have split : n % 256 ^ (width + 1)
        = n % 256 ^ width + 256 ^ width * (n / 256 ^ width % 256) := Nat.mod_mul
    rw [bigEndian_succ, List.cons_append, natFrom, ih, lead, split, pow_succ]
    congr 2
    ring

theorem natFrom_of_lt {width n : Nat} (fits : n < 256 ^ width) (rest : Bytes) :
    natFrom width 0 (bigEndian width n ++ rest) = some (n, rest) := by
  rw [natFrom_bigEndian, Nat.mod_eq_of_lt fits, Nat.zero_mul, Nat.zero_add]

theorem takeExactly_append (s rest : Bytes) :
    takeExactly s.length (s ++ rest) = some (s, rest) := by
  simp [takeExactly]

/-! ## Bytes that spell a value -/

/-- The bytes are read as the value, whatever follows them. -/
structure Spells (s : Bytes) (p : Pack) : Prop where
  pos : 0 < s.length
  read : ∀ (rest : Bytes) (fuel : Nat), 2 * s.length ≤ fuel →
    value? fuel (s ++ rest) = some (p, rest)

/-- What spells a value is read as that value. -/
theorem Spells.first? {s : Bytes} {p : Pack} (spells : Spells s p) : first? s = some p := by
  have read := spells.read [] (2 * s.length + 2) (by omega)
  rw [List.append_nil] at read
  rw [MessagePack.first?, read, Option.map_some]

/-- To spell a value by a first byte and a body, it is enough that a step more than the body needs
reads it. -/
theorem Spells.of_step {b : UInt8} {body : Bytes} {p : Pack}
    (step : ∀ (rest : Bytes) (fuel : Nat), 2 * body.length + 1 ≤ fuel →
      value? (fuel + 1) (b :: (body ++ rest)) = some (p, rest)) :
    Spells (b :: body) p where
  pos := by simp
  read rest fuel enough := by
    rw [List.length_cons] at enough
    obtain ⟨fuel, rfl⟩ : ∃ k, fuel = k + 1 := ⟨fuel - 1, by omega⟩
    exact step rest fuel (by omega)

theorem Spells.done {b : UInt8} {p : Pack} (head : headOf b = some (.done p)) : Spells [b] p := by
  refine .of_step fun rest fuel _ => ?_
  rw [value?, head]
  rfl

theorem Spells.number {b : UInt8} {width n : Nat} (isSigned : Bool)
    (head : headOf b = some (.number width isSigned)) (fits : n < 256 ^ width) :
    Spells (b :: bigEndian width n) (.int (if isSigned then signed width n else n)) := by
  refine .of_step fun rest fuel _ => ?_
  rw [value?, head]
  simp only [natFrom_of_lt fits, Option.map_some]

theorem Spells.rawOf {b : UInt8} {s : Bytes} (head : headOf b = some (.rawOf s.length)) :
    Spells (b :: s) (.raw s) := by
  refine .of_step fun rest fuel _ => ?_
  rw [value?, head]
  simp only [takeExactly_append, Option.map_some]

theorem Spells.rawIn {b : UInt8} {width : Nat} {s : Bytes} (head : headOf b = some (.rawIn width))
    (fits : s.length < 256 ^ width) : Spells (b :: (bigEndian width s.length ++ s)) (.raw s) := by
  refine .of_step fun rest fuel _ => ?_
  rw [value?, head, List.append_assoc]
  simp only [natFrom_of_lt fits, takeExactly_append, Option.bind_some, Option.map_some]

/-! ## Lists and maps -/

/-- **Elements one after the other** are read in order.  The induction is on the elements; the step that
an element takes is paid by its first byte. -/
theorem values?_of_spells {items : List Bytes} {ps : List Pack}
    (spell : List.Forall₂ Spells items ps) (rest : Bytes) (fuel : Nat)
    (enough : 2 * items.flatten.length + 1 ≤ fuel) :
    values? fuel items.length (items.flatten ++ rest) = some (ps, rest) := by
  induction spell generalizing fuel with
  | nil => simp [values?]
  | @cons item p items ps first _ ih =>
    have pos := first.pos
    rw [List.flatten_cons, List.length_append] at enough
    obtain ⟨fuel, rfl⟩ : ∃ k, fuel = k + 1 := ⟨fuel - 1, by omega⟩
    rw [List.flatten_cons, List.append_assoc, List.length_cons, values?,
      first.read _ fuel (by omega), Option.bind_some, ih fuel (by omega), Option.map_some]

/-- The bytes of a name and a value spell the pair. -/
def SpellsPair (s : Bytes) (entry : Pack × Pack) : Prop :=
  ∃ key value, s = key ++ value ∧ Spells key entry.1 ∧ Spells value entry.2

/-- Pairs one after the other are read in order. -/
theorem entries?_of_spells {items : List Bytes} {es : List (Pack × Pack)}
    (spell : List.Forall₂ SpellsPair items es) (rest : Bytes) (fuel : Nat)
    (enough : 2 * items.flatten.length + 1 ≤ fuel) :
    entries? fuel items.length (items.flatten ++ rest) = some (es, rest) := by
  induction spell generalizing fuel with
  | nil => simp [entries?]
  | @cons item e items es first _ ih =>
    obtain ⟨key, value, rfl, keySpells, valueSpells⟩ := first
    have pos := keySpells.pos
    have pos' := valueSpells.pos
    rw [List.flatten_cons, List.length_append, List.length_append] at enough
    obtain ⟨fuel, rfl⟩ : ∃ k, fuel = k + 1 := ⟨fuel - 1, by omega⟩
    rw [List.flatten_cons, List.append_assoc, List.append_assoc, List.length_cons, entries?,
      keySpells.read _ fuel (by omega), Option.bind_some, valueSpells.read _ fuel (by omega),
      Option.bind_some, ih fuel (by omega), Option.map_some]

theorem Spells.arrayOf {b : UInt8} {items : List Bytes} {ps : List Pack}
    (head : headOf b = some (.arrayOf items.length)) (spell : List.Forall₂ Spells items ps) :
    Spells (b :: items.flatten) (.array ps) := by
  refine .of_step fun rest fuel enough => ?_
  rw [value?, head]
  simp only [values?_of_spells spell rest fuel enough, Option.map_some]

theorem Spells.arrayIn {b : UInt8} {width : Nat} {items : List Bytes} {ps : List Pack}
    (head : headOf b = some (.arrayIn width)) (fits : items.length < 256 ^ width)
    (spell : List.Forall₂ Spells items ps) :
    Spells (b :: (bigEndian width items.length ++ items.flatten)) (.array ps) := by
  refine .of_step fun rest fuel enough => ?_
  rw [List.length_append] at enough
  rw [value?, head, List.append_assoc]
  simp only [natFrom_of_lt fits, values?_of_spells spell rest fuel (by omega), Option.bind_some,
    Option.map_some]

theorem Spells.mapOf {b : UInt8} {items : List Bytes} {es : List (Pack × Pack)}
    (head : headOf b = some (.mapOf items.length)) (spell : List.Forall₂ SpellsPair items es) :
    Spells (b :: items.flatten) (.map es) := by
  refine .of_step fun rest fuel enough => ?_
  rw [value?, head]
  simp only [entries?_of_spells spell rest fuel enough, Option.map_some]

/-! ## First bytes that hold a number -/

theorem toNat_toUInt8_of_lt {n : Nat} (small : n < 256) : n.toUInt8.toNat = n := by
  simpa using small

theorem headOf_natural {n : Nat} (small : n < 128) : headOf n.toUInt8 = some (.done (.int n)) := by
  simp only [headOf, toNat_toUInt8_of_lt (show n < 256 by omega)]
  rw [if_pos small]

theorem headOf_negative {n : Nat} (small : n < 32) :
    headOf (255 - n).toUInt8 = some (.done (.int (.negSucc n))) := by
  have value : ((255 - n : Nat) : Int) - 256 = .negSucc n := by omega
  simp only [headOf, toNat_toUInt8_of_lt (show 255 - n < 256 by omega)]
  rw [if_neg (by omega), if_neg (by omega), if_neg (by omega), if_neg (by omega),
    if_pos (by omega), value]

theorem headOf_text {n : Nat} (small : n < 32) : headOf (0xA0 + n).toUInt8 = some (.rawOf n) := by
  simp only [headOf, toNat_toUInt8_of_lt (show 0xA0 + n < 256 by omega)]
  rw [if_neg (by omega), if_neg (by omega), if_neg (by omega), if_pos (by omega),
    Nat.add_sub_cancel_left]

theorem headOf_list {n : Nat} (small : n < 16) : headOf (0x90 + n).toUInt8 = some (.arrayOf n) := by
  simp only [headOf, toNat_toUInt8_of_lt (show 0x90 + n < 256 by omega)]
  rw [if_neg (by omega), if_neg (by omega), if_pos (by omega), Nat.add_sub_cancel_left]

theorem headOf_map {n : Nat} (small : n < 16) : headOf (0x80 + n).toUInt8 = some (.mapOf n) := by
  simp only [headOf, toNat_toUInt8_of_lt (show 0x80 + n < 256 by omega)]
  rw [if_neg (by omega), if_pos (by omega), Nat.add_sub_cancel_left]

/-! ## What is written -/

theorem spells_nil : Spells nil .nil := .done rfl

theorem spells_nat {n : Nat} (fits : n < 2 ^ 64) : Spells (nat n) (.int n) := by
  rw [nat]
  split
  next tiny => exact .done (headOf_natural tiny)
  split
  next one => exact .number false rfl one
  split
  next two => exact .number false rfl two
  split
  next four => exact .number false rfl four
  exact .number false rfl fits

/-- A negative number is written as the complement of a natural one. -/
theorem spells_complement {b : UInt8} {width n : Nat} (head : headOf b = some (.number width true))
    (pos : 0 < width) (fits : n < 2 ^ (8 * width - 1)) :
    Spells (b :: bigEndian width (256 ^ width - 1 - n)) (.int (.negSucc n)) := by
  have bits : 256 ^ width = 2 ^ (8 * width) := by rw [Nat.pow_mul]
  have half : 2 ^ (8 * width) = 2 * 2 ^ (8 * width - 1) := by
    rw [← Nat.pow_succ', Nat.succ_eq_add_one, Nat.sub_add_cancel (by omega)]
  have value : signed width (256 ^ width - 1 - n) = .negSucc n := by
    simp only [signed, Nat.pow_eq]
    rw [if_neg (by omega)]
    omega
  have spells := Spells.number true head (show 256 ^ width - 1 - n < 256 ^ width by omega)
  rwa [if_pos rfl, value] at spells

theorem spells_negSucc {n : Nat} (fits : n < 2 ^ 63) :
    Spells (int (.negSucc n)) (.int (.negSucc n)) := by
  rw [int]
  split
  next tiny => exact .done (headOf_negative tiny)
  split
  next one => exact spells_complement rfl (by decide) one
  split
  next two => exact spells_complement rfl (by decide) two
  split
  next four => exact spells_complement rfl (by decide) four
  exact spells_complement rfl (by decide) fits

/-- Does an integer have 64 bits? -/
def Fits64 (n : Int) : Prop := -2 ^ 63 ≤ n ∧ n < 2 ^ 63

instance (n : Int) : Decidable (Fits64 n) := inferInstanceAs (Decidable (_ ∧ _))

theorem spells_int {n : Int} (fits : Fits64 n) : Spells (int n) (.int n) := by
  obtain ⟨low, high⟩ := fits
  cases n with
  | ofNat n => exact spells_nat (by rw [Int.ofNat_eq_natCast] at high; omega)
  | negSucc n => exact spells_negSucc (by omega)

theorem spells_word (n : UInt16) : Spells (word n) (.int n.toNat) :=
  .number false rfl n.toNat_lt

theorem spells_str {s : Bytes} (fits : s.length < 2 ^ 32) : Spells (str s) (.raw s) := by
  simp only [str]
  split
  next tiny => exact .rawOf (headOf_text tiny)
  split
  next one => exact .rawIn rfl one
  split
  next two => exact .rawIn rfl two
  exact .rawIn rfl fits

theorem spells_bin {s : Bytes} (fits : s.length < 2 ^ 32) : Spells (bin s) (.raw s) := by
  simp only [bin]
  split
  next one => exact .rawIn rfl one
  split
  next two => exact .rawIn rfl two
  exact .rawIn rfl fits

theorem spells_array {items : List Bytes} {ps : List Pack} (fits : items.length < 2 ^ 32)
    (spell : List.Forall₂ Spells items ps) : Spells (array items) (.array ps) := by
  simp only [array]
  split
  next tiny => exact .arrayOf (headOf_list tiny) spell
  split
  next two => exact .arrayIn rfl two spell
  exact .arrayIn rfl fits spell

end Marginalia.MessagePack
