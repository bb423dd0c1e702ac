import Marginalia.Json.Comments
import Marginalia.Proofs.Json.Text
import Mathlib.Data.List.Basic

/-!
# Values are read back

A value that is printed is read back as itself (`value?_render`), and so is a document
(`first?_document`).  This holds of values whose texts are properly encoded and whose
numbers are whole, at any nesting (`Portable`); a stray byte would come back as the
replacement character.

Reading a value takes away two units of fuel for each level, one for the bracket and
one for the element, so twice the length of what is printed is enough.  What follows a
value matters to numbers only: in a document it is a comma, a new line or nothing
(`Stops`).
-/

namespace Marginalia.Json

set_option autoImplicit false

/-! ## Numbers -/

/-- Does a text begin with something that ends a value, or is there nothing more? -/
def Stops (rest : List Char) : Prop := ∀ c ∈ rest.head?, c = ',' ∨ c = '\n'

theorem stops_comma (rest : List Char) : Stops (',' :: rest) := by
  rintro c ⟨⟩
  exact .inl rfl

theorem stops_newLine (depth : Nat) (rest : List Char) : Stops (newLine depth ++ rest) := by
  rintro c ⟨⟩
  exact .inr rfl

theorem isDigit_of_mem_toDigits {n : Nat} {c : Char} (member : c ∈ Nat.toDigits 10 n) :
    isDigit c = true := by
  have digit := Nat.isDigit_of_mem_toDigits (by decide) (by decide) member
  simpa [isDigit, Char.isDigit, Char.le_def] using digit

/-- The digits of a number that is not zero do not start with a zero. -/
theorem head_toDigits_ne_zero {n : Nat} (positive : 0 < n) :
    (Nat.toDigits 10 n).head? ≠ some '0' := by
  induction n using Nat.strongRecOn with
  | ind n ih =>
    rw [Nat.toDigits_eq_if (by decide)]
    split
    case isTrue small =>
      have digits : ∀ n < 10, 0 < n → [n.digitChar].head? ≠ some '0' := by decide
      exact digits n small positive
    case isFalse large =>
      have := ih (n / 10) (by omega) (by omega)
      have nonempty : Nat.toDigits 10 (n / 10) ≠ [] := Nat.toDigits_ne_nil
      rwa [List.head?_append_of_ne_nil _ nonempty]

theorem digits?_append {ds rest : List Char} (nonempty : ds ≠ [])
    (digits : ∀ c ∈ ds, isDigit c = true) (stops : Stops rest) :
    digits? (ds ++ rest) = some (ds, rest) := by
  have taken : rest.takeWhile isDigit = [] ∧ rest.dropWhile isDigit = rest := by
    cases rest with
    | nil => exact ⟨rfl, rfl⟩
    | cons c rest =>
      have other : isDigit c = false := by
        rcases stops c rfl with rfl | rfl <;> rfl
      simp [other]
  obtain ⟨d, ds, rfl⟩ := List.exists_cons_of_ne_nil nonempty
  rw [digits?, List.takeWhile_append_of_pos digits, List.dropWhile_append_of_pos digits, taken.1,
    taken.2, List.append_nil]

theorem whole?_toDigits (n : Nat) {rest : List Char} (stops : Stops rest) :
    whole? (Nat.toDigits 10 n ++ rest) = some (Nat.toDigits 10 n, rest) := by
  have nonempty : Nat.toDigits 10 n ≠ [] := Nat.toDigits_ne_nil
  rcases Nat.eq_zero_or_pos n with rfl | positive
  · rfl
  · have head := head_toDigits_ne_zero positive
    rw [whole?]
    · exact digits?_append nonempty (fun c member => isDigit_of_mem_toDigits member) stops
    · intro tail shape
      have same : (Nat.toDigits 10 n ++ rest).head? = (Nat.toDigits 10 n).head? :=
        List.head?_append_of_ne_nil _ nonempty
      rw [← same, shape] at head
      exact absurd rfl head

theorem fraction?_stops {rest : List Char} (stops : Stops rest) :
    fraction? rest = some ([], rest) := by
  rw [fraction?]
  rintro tail rfl
  rcases stops '.' rfl with point | point <;> cases point

theorem exponent?_stops {rest : List Char} (stops : Stops rest) :
    exponent? rest = some ([], rest) := by
  cases rest with
  | nil => rfl
  | cons c rest => rcases stops c rfl with rfl | rfl <;> rfl

theorem number?_digits (n : Nat) {rest : List Char} (stops : Stops rest) :
    number? (Nat.toDigits 10 n ++ rest) = some (Nat.toDigits 10 n, rest) := by
  have unsigned : ∀ tail, Nat.toDigits 10 n ++ rest ≠ '-' :: tail := by
    intro tail shape
    obtain ⟨d, ds, digits⟩ := List.exists_cons_of_ne_nil (Nat.toDigits_ne_nil (n := n) (b := 10))
    rw [digits] at shape
    cases shape
    have digit := isDigit_of_mem_toDigits (n := n) (c := '-') (by simp [digits])
    cases digit
  rw [number?]
  · simp [whole?_toDigits n stops, fraction?_stops stops, exponent?_stops stops]
  · exact unsigned

theorem number?_minus (n : Nat) {rest : List Char} (stops : Stops rest) :
    number? ('-' :: Nat.toDigits 10 n ++ rest) = some ('-' :: Nat.toDigits 10 n, rest) := by
  simp [number?, whole?_toDigits n stops, fraction?_stops stops, exponent?_stops stops]

/-- What a whole number is written as. -/
def literalOf : Int → List Char
  | .ofNat n => Nat.toDigits 10 n
  | .negSucc n => '-' :: Nat.toDigits 10 (n + 1)

theorem int_eq_number (n : Int) : Json.int n = .number (literalOf n) := by
  cases n <;> rfl

theorem number?_literalOf (n : Int) {rest : List Char} (stops : Stops rest) :
    number? (literalOf n ++ rest) = some (literalOf n, rest) := by
  cases n with
  | ofNat n => exact number?_digits n stops
  | negSucc n => exact number?_minus (n + 1) stops

/-- What a whole number starts with: a minus or a digit. -/
def Numeral (c : Char) : Prop := c = '-' ∨ isDigit c = true

theorem Numeral.ne {c d : Char} (numeral : Numeral c) (minus : d ≠ '-')
    (digit : isDigit d = false) : c ≠ d := by
  rintro rfl
  rcases numeral with rfl | one
  · exact minus rfl
  · rw [digit] at one
    cases one

theorem exists_literalOf_cons (n : Int) : ∃ c tail, literalOf n = c :: tail ∧ Numeral c := by
  cases n with
  | ofNat n =>
    obtain ⟨d, ds, digits⟩ := List.exists_cons_of_ne_nil (Nat.toDigits_ne_nil (n := n) (b := 10))
    exact ⟨d, ds, digits, .inr (isDigit_of_mem_toDigits (n := n) (by simp [digits]))⟩
  | negSucc n => exact ⟨'-', _, rfl, .inl rfl⟩

/-! ## Blanks -/

theorem skipBlanks_of_cons {c : Char} (other : isBlank c = false) (cs : List Char) :
    skipBlanks (c :: cs) = c :: cs := by
  rw [skipBlanks, List.dropWhile_cons, other]
  rfl

theorem skipBlanks_newLine (depth : Nat) (cs : List Char) :
    skipBlanks (newLine depth ++ cs) = skipBlanks cs := by
  have blanks : ∀ c ∈ newLine depth, isBlank c = true := by
    intro c member
    rcases List.mem_cons.1 member with rfl | blank
    · rfl
    · rw [List.eq_of_mem_replicate blank]
      rfl
  exact List.dropWhile_append_of_pos blanks

theorem value?_congr {cs ds : List Char} (same : skipBlanks cs = skipBlanks ds) (fuel : Nat) :
    value? fuel cs = value? fuel ds := by
  cases fuel with
  | zero => rw [value?, value?]
  | succ fuel => rw [value?, value?, same]

theorem value?_newLine (fuel depth : Nat) (cs : List Char) :
    value? fuel (newLine depth ++ cs) = value? fuel cs :=
  value?_congr (skipBlanks_newLine depth cs) fuel

/-- Behind an opening bracket the first thing that is not a blank is the first element. -/
theorem exists_skipBlanks_separated {c : Char} (other : isBlank c = false) (tail : List Char)
    (level : Nat) (ys : List (List Char)) (rest : List Char) :
    ∃ after, skipBlanks (separated level ((c :: tail) :: ys) ++ rest) = c :: after := by
  cases ys with
  | nil =>
    refine ⟨tail ++ rest, ?_⟩
    rw [separated, List.append_assoc, skipBlanks_newLine]
    exact skipBlanks_of_cons other _
  | cons y ys =>
    refine ⟨tail ++ ([','] ++ (separated level (y :: ys) ++ rest)), ?_⟩
    rw [separated, List.append_assoc, List.append_assoc, List.append_assoc, skipBlanks_newLine]
    exact skipBlanks_of_cons other _

/-! ## Values -/

/-- A value whose texts are properly encoded and whose numbers are whole. -/
inductive Portable : Json → Prop where
  | null : Portable .null
  | bool (b : Bool) : Portable (.bool b)
  | int (n : Int) : Portable (.int n)
  | str {s : Bytes} (proper : Utf8.valid s = true) : Portable (.str s)
  | array {xs : List Json} (elements : ∀ x ∈ xs, Portable x) : Portable (.array xs)
  | object {ms : List (Bytes × Json)} (keys : ∀ m ∈ ms, Utf8.valid m.1 = true)
      (values : ∀ m ∈ ms, Portable m.2) : Portable (.object ms)

/-- An object is portable if the values that are present are. -/
theorem portable_ofMembers {members : List (String × Option Json)}
    (values : ∀ m ∈ members, ∀ v ∈ m.2, Portable v) : Portable (ofMembers members) := by
  refine .object ?_ ?_
  · intro m member
    obtain ⟨⟨name, value⟩, -, found⟩ := List.mem_filterMap.1 member
    obtain ⟨v, -, rfl⟩ := Option.map_eq_some_iff.1 found
    exact Utf8.valid_ofChars name.toList
  · intro m member
    obtain ⟨⟨name, value⟩, listed, found⟩ := List.mem_filterMap.1 member
    obtain ⟨v, present, rfl⟩ := Option.map_eq_some_iff.1 found
    exact values _ listed v present

/-- The first character of a value is not a blank and closes nothing. -/
theorem exists_render_cons {v : Json} (portable : Portable v) (depth : Nat) :
    ∃ c tail, render depth v = c :: tail ∧ isBlank c = false ∧ c ≠ ']' := by
  cases portable with
  | null => exact ⟨'n', _, by rw [render], by decide⟩
  | bool b => cases b <;> exact ⟨_, _, by rw [render], by decide⟩
  | int n =>
    obtain ⟨c, tail, literal, numeral⟩ := exists_literalOf_cons n
    refine ⟨c, tail, by rw [int_eq_number, render, literal], ?_, ?_⟩
    · simp [isBlank, isDigit, numeral.ne]
    · exact numeral.ne (by decide) rfl
  | str proper => exact ⟨'\x22', _, by rw [render, quote]; rfl, by decide⟩
  | @array xs elements =>
    cases xs with
    | nil => exact ⟨'[', _, by rw [render], by decide⟩
    | cons x xs => exact ⟨'[', _, by rw [render, List.cons_append, List.cons_append], by decide⟩
  | @object ms keys values =>
    cases ms with
    | nil => exact ⟨'\x7b', _, by rw [render], by decide⟩
    | cons m ms => exact ⟨'\x7b', _, by rw [render, List.cons_append, List.cons_append], by decide⟩

/-- Is a value read back wherever it is printed? -/
def ReadBack (v : Json) : Prop :=
  ∀ depth fuel rest, Stops rest → 2 * (render depth v).length ≤ fuel →
    value? (fuel + 1) (render depth v ++ rest) = some (v, rest)

theorem readBack_int (n : Int) : ReadBack (.int n) := by
  intro depth fuel rest stops enough
  have read := number?_literalOf n stops
  obtain ⟨c, tail, literal, numeral⟩ := exists_literalOf_cons n
  rw [int_eq_number, render, literal, List.cons_append, value?,
    skipBlanks_of_cons (by simp [isBlank, isDigit, numeral.ne])]
  rw [literal, List.cons_append] at read
  simp [isDigit, numeral.ne, read]

theorem readBack_str {s : Bytes} (proper : Utf8.valid s = true) : ReadBack (.str s) := by
  intro depth fuel rest stops enough
  have read := textRest?_quote s rest
  rw [quote, List.cons_append, List.tail_cons] at read
  rw [render, quote, List.cons_append, List.cons_append, value?, skipBlanks_of_cons rfl]
  simp only [if_true, read, Option.map_some, Utf8.ofChars_chars proper]

/-! ## Elements and members -/

section Nested

variable (depth level : Nat) (rest : List Char)

/-- **Elements that are read back one by one are read back together.** -/
theorem elements?_separated {x : Json} {xs : List Json} (back : ∀ y ∈ x :: xs, ReadBack y)
    {fuel : Nat} (enough : 2 * (separated level (renderAll level (x :: xs))).length ≤ fuel) :
    elements? (fuel + 2) (separated level (renderAll level (x :: xs)) ++ (newLine depth ++ ']' :: rest))
      = some (x :: xs, rest) := by
  induction xs generalizing x fuel with
  | nil =>
    simp only [renderAll, separated, List.length_append] at enough ⊢
    rw [elements?, List.append_assoc, value?_newLine,
      back x (by simp) level fuel _ (stops_newLine depth _) (by omega)]
    simp only [skipBlanks_newLine]
    rfl
  | cons y ys ih =>
    rw [renderAll, renderAll, separated, ← renderAll] at enough ⊢
    simp only [List.length_append, List.length_singleton] at enough
    obtain ⟨fuel, rfl⟩ : ∃ f, fuel = f + 1 := ⟨fuel - 1, by omega⟩
    simp only [List.append_assoc, List.cons_append, List.nil_append]
    -- The comma ends the first element.
    rw [elements?, value?_newLine,
      back x (by simp) level (fuel + 1) _ (stops_comma _) (by omega)]
    simp only [skipBlanks_of_cons (c := ',') rfl]
    rw [ih (fun z member => back z (.tail _ member)) (by omega)]
    rfl

/-- A member is read up to the brace or the comma behind its value. -/
theorem members?_member (level : Nat) {key : Bytes} {v : Json} (proper : Utf8.valid key = true)
    (back : ReadBack v) {fuel : Nat} (enough : 2 * (render level v).length ≤ fuel)
    {tail : List Char} (stops : Stops tail) (after : List Char) :
    (skipBlanks tail = '}' :: after →
        members? (fuel + 2) (newLine level ++ (quote key ++ ([':', ' '] ++ (render level v ++ tail))))
          = some ([(key, v)], after)) ∧
      (skipBlanks tail = ',' :: after →
        members? (fuel + 2) (newLine level ++ (quote key ++ ([':', ' '] ++ (render level v ++ tail))))
          = (members? (fuel + 1) after).map fun r => ((key, v) :: r.1, r.2)) := by
  have name := textRest?_quote key ([':', ' '] ++ (render level v ++ tail))
  have blank : skipBlanks (' ' :: (render level v ++ tail)) = skipBlanks (render level v ++ tail) :=
    rfl
  have value := (value?_congr blank (fuel + 1)).trans (back level fuel tail stops enough)
  rw [quote, List.cons_append, List.tail_cons] at name
  rw [members?, skipBlanks_newLine, quote]
  simp only [List.cons_append, List.append_assoc, List.nil_append] at name ⊢
  rw [skipBlanks_of_cons rfl]
  simp only [name, skipBlanks_of_cons (c := ':') rfl, value, Utf8.ofChars_chars proper]
  constructor
  · intro ends
    rw [ends]
    rfl
  · intro more
    rw [more]
    rfl

/-- **Members that are read back one by one are read back together.** -/
theorem members?_separated {m : Bytes × Json} {ms : List (Bytes × Json)}
    (keys : ∀ m' ∈ m :: ms, Utf8.valid m'.1 = true) (back : ∀ m' ∈ m :: ms, ReadBack m'.2)
    {fuel : Nat} (enough : 2 * (separated level (renderMembers level (m :: ms))).length ≤ fuel) :
    members? (fuel + 2)
        (separated level (renderMembers level (m :: ms)) ++ (newLine depth ++ '}' :: rest))
      = some (m :: ms, rest) := by
  induction ms generalizing m fuel with
  | nil =>
    simp only [renderMembers, separated, List.length_append] at enough
    simp only [renderMembers, separated, List.append_assoc]
    exact (members?_member level (keys m (by simp)) (back m (by simp)) (by omega)
      (stops_newLine depth _) rest).1 (skipBlanks_newLine depth _)
  | cons m' ms ih =>
    obtain ⟨key', v'⟩ := m'
    rw [renderMembers, renderMembers, separated, ← renderMembers] at enough ⊢
    simp only [List.length_append, List.length_singleton] at enough
    obtain ⟨fuel, rfl⟩ : ∃ f, fuel = f + 1 := ⟨fuel - 1, by omega⟩
    have shorter : 2 * (separated level (renderMembers level ((key', v') :: ms))).length ≤ fuel := by
      omega
    have next := ih (fun m' member => keys m' (.tail _ member))
      (fun m' member => back m' (.tail _ member)) shorter
    have here := members?_member level (keys m (by simp)) (back m (by simp))
      (show 2 * (render level m.2).length ≤ fuel + 1 by omega)
      (stops_comma (separated level (renderMembers level ((key', v') :: ms)) ++
        (newLine depth ++ '}' :: rest)))
    simp only [List.append_assoc, List.cons_append, List.nil_append] at here ⊢
    rw [(here _).2 (skipBlanks_of_cons rfl _), next]
    rfl

end Nested

/-! ## Brackets -/

/-- Behind an opening bracket, what does not close it is an element. -/
theorem value?_array {cs after : List Char} {c : Char} (first : skipBlanks cs = c :: after)
    (inside : c ≠ ']') (fuel : Nat) :
    value? (fuel + 1) ('[' :: cs) = (elements? fuel cs).map fun r => (.array r.1, r.2) := by
  rw [value?, skipBlanks_of_cons rfl]
  simp only [Char.reduceEq, if_true, if_false, first]
  split
  case h_1 closed => exact absurd (List.cons.inj closed).1 inside
  case h_2 => rfl

/-- Behind an opening brace, what does not close it is a member. -/
theorem value?_object {cs after : List Char} {c : Char} (first : skipBlanks cs = c :: after)
    (inside : c ≠ '}') (fuel : Nat) :
    value? (fuel + 1) ('\x7b' :: cs) = (members? fuel cs).map fun r => (.object r.1, r.2) := by
  rw [value?, skipBlanks_of_cons rfl]
  simp only [Char.reduceEq, if_true, if_false, first]
  split
  case h_1 closed => exact absurd (List.cons.inj closed).1 inside
  case h_2 => rfl

theorem readBack_array {x : Json} {xs : List Json} (opens : Portable x)
    (back : ∀ y ∈ x :: xs, ReadBack y) : ReadBack (.array (x :: xs)) := by
  intro depth fuel rest stops enough
  rw [render, List.cons_append, List.cons_append, List.length_cons, List.append_assoc,
    List.length_append] at enough
  obtain ⟨fuel, rfl⟩ : ∃ f, fuel = f + 2 := ⟨fuel - 2, by omega⟩
  have inner : 2 * (separated (depth + 1) (renderAll (depth + 1) (x :: xs))).length ≤ fuel := by omega
  have read := elements?_separated depth (depth + 1) rest back inner
  -- What follows the bracket does not close it, for the first element does not start with a bracket.
  obtain ⟨c, tail, begins, other, inside⟩ := exists_render_cons opens (depth + 1)
  obtain ⟨after, first⟩ := exists_skipBlanks_separated other tail (depth + 1)
    (renderAll (depth + 1) xs) (newLine depth ++ ']' :: rest)
  rw [← begins, ← renderAll] at first
  rw [render]
  simp only [List.cons_append, List.append_assoc, List.nil_append]
  rw [value?_array first inside, read]
  rfl

theorem readBack_object {m : Bytes × Json} {ms : List (Bytes × Json)}
    (keys : ∀ m' ∈ m :: ms, Utf8.valid m'.1 = true) (back : ∀ m' ∈ m :: ms, ReadBack m'.2) :
    ReadBack (.object (m :: ms)) := by
  intro depth fuel rest stops enough
  rw [render, List.cons_append, List.cons_append, List.length_cons, List.append_assoc,
    List.length_append] at enough
  obtain ⟨fuel, rfl⟩ : ∃ f, fuel = f + 2 := ⟨fuel - 2, by omega⟩
  have inner : 2 * (separated (depth + 1) (renderMembers (depth + 1) (m :: ms))).length ≤ fuel := by
    omega
  have read := members?_separated depth (depth + 1) rest keys back inner
  obtain ⟨after, first⟩ : ∃ after,
      skipBlanks (separated (depth + 1) (renderMembers (depth + 1) (m :: ms)) ++
        (newLine depth ++ '}' :: rest)) = '\x22' :: after := by
    obtain ⟨key, v⟩ := m
    rw [renderMembers, quote]
    exact exists_skipBlanks_separated rfl _ _ _ _
  rw [render]
  simp only [List.cons_append, List.append_assoc, List.nil_append]
  rw [value?_object first (by decide), read]
  rfl

/-! ## Documents -/

/-- **A value is read back wherever it is printed.**  The induction is on the value, so the elements
and members of a value are read back already. -/
theorem value?_render {v : Json} (portable : Portable v) : ReadBack v := by
  induction portable with
  | int n => exact readBack_int n
  | str proper => exact readBack_str proper
  | null =>
    intro depth fuel rest stops enough
    rw [render]
    rfl
  | bool b =>
    intro depth fuel rest stops enough
    cases b <;> rw [render] <;> rfl
  | @array xs elements ih =>
    cases xs with
    | nil =>
      intro depth fuel rest stops enough
      rw [render]
      rfl
    | cons x xs => exact readBack_array (elements x (by simp)) ih
  | @object ms keys values ih =>
    cases ms with
    | nil =>
      intro depth fuel rest stops enough
      rw [render]
      rfl
    | cons m ms => exact readBack_object keys ih

/-- **A value that is printed at any level is the first value of the text it begins.** -/
theorem first?_render {v : Json} (portable : Portable v) (depth : Nat) {rest : List Char}
    (stops : Stops rest) : first? (Utf8.ofChars (render depth v ++ rest)) = some v := by
  rw [first?, Utf8.chars_ofChars, value?_render portable depth _ rest stops (by simp; omega)]
  rfl

/-- **A document is read back.** -/
theorem first?_document {v : Json} (portable : Portable v) : first? v.document = some v :=
  first?_render portable 0 (stops_newLine 0 [])

end Marginalia.Json
