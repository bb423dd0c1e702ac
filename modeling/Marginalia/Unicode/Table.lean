/-!
# Tables of code points

Data of the Unicode standard is written as text, one word per row: a range of
code points in hexadecimal, and, where the property has values, those values
after an equals sign.  `41-5A=61` is a range with one value, `C0=41,300` a single
code point with two, and `300-314` a range with none.  Rows are increasing and
disjoint, so a code point is found by halving.

The data are of two versions of the standard.  Categories, scripts and cases come with
the compiler and are of Unicode 17; what the libraries for normal forms, widths and
clusters bring along is of Unicode 15.  A program built by an older compiler knows fewer
letters: U+1C89 has a lower case here and is not assigned in Unicode 15.
-/

namespace Marginalia.Unicode

set_option autoImplicit false

/-- One row: the code points `lo` to `hi`, with the values of the property. -/
structure Row where
  lo : Nat
  hi : Nat
  values : List Nat
  deriving Repr, Inhabited

/-- Rows in increasing order. -/
structure Table where
  rows : Array Row
  deriving Inhabited

namespace Table

/-! ## Reading a table -/

/-- The value of a hexadecimal digit written in capitals. -/
def digitValue (c : Char) : Nat :=
  if '0' ≤ c && c ≤ '9' then c.toNat - 48 else c.toNat - 55

/-- The value of hexadecimal digits. -/
def hexNumber (cs : List Char) : Nat := cs.foldl (fun n c => n * 16 + digitValue c) 0

/-- The pieces of a word between the characters equal to `sep`. -/
def pieces (sep : Char) : List Char → List (List Char)
  | [] => [[]]
  | c :: cs =>
    if c = sep then [] :: pieces sep cs
    else
      match pieces sep cs with
      | [] => [[c]]
      | p :: ps => (c :: p) :: ps

def parseRow (word : List Char) : Row :=
  let (range, values) :=
    match pieces '=' word with
    | range :: values :: _ => (range, (pieces ',' values).map hexNumber)
    | [range] => (range, [])
    | [] => ([], [])
  match (pieces '-' range).map hexNumber with
  | lo :: hi :: _ => ⟨lo, hi, values⟩
  | [lo] => ⟨lo, lo, values⟩
  | [] => ⟨0, 0, values⟩

/-- Reads the rows of a table, which stand in increasing order on lines of several words. -/
def parse (lines : List String) : Table where
  rows := (lines.flatMap fun line => (pieces ' ' line.toList).map parseRow).toArray

/-- The table of the given rows, put in increasing order. -/
def ofRows (rows : List Row) : Table where
  rows := (rows.mergeSort fun a b => a.lo ≤ b.lo).toArray

/-! ## Looking up a code point -/

/-- The row that holds `n` among those with an index from `first` to before `last`. -/
def search (rows : Array Row) (n first last : Nat) : Option Row :=
  if _h : first < last then
    let mid := (first + last) / 2
    match rows[mid]? with
    | none => none
    | some row =>
      if n < row.lo then search rows n first mid
      else if row.hi < n then search rows n (mid + 1) last
      else some row
  else none
termination_by last - first
decreasing_by
  all_goals omega

/-- The row that holds `n`. -/
def find? (t : Table) (n : Nat) : Option Row := search t.rows n 0 t.rows.size

def contains (t : Table) (n : Nat) : Bool := (t.find? n).isSome

/-- A row that is found holds the code point. -/
theorem search_bounds {rows : Array Row} {n first last : Nat} {row : Row}
    (h : search rows n first last = some row) : row.lo ≤ n ∧ n ≤ row.hi := by
  fun_induction search rows n first last with
  | case1 => simp at h
  | case2 _ _ _ _ _ _ _ ih => exact ih h
  | case3 _ _ _ _ _ _ _ _ ih => exact ih h
  | case4 =>
    simp only [Option.some.injEq] at h
    subst h
    omega
  | case5 => simp at h

theorem find?_bounds {t : Table} {n : Nat} {row : Row} (h : t.find? n = some row) :
    row.lo ≤ n ∧ n ≤ row.hi := search_bounds h

end Table

end Marginalia.Unicode
