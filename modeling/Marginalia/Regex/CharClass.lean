import Marginalia.Text.Bytes
import Marginalia.Unicode.CaseFold
import Marginalia.Unicode.Category
import Marginalia.Unicode.Script

/-!
# Classes of characters

A class is kept as ranges of code points in a form in which equal classes are
equal: in increasing order, with gaps between them.  An expression can name the
classes of ASCII, general categories by their short and long names, and scripts.
Where case does not matter, a class also holds every character that is equivalent
to one of its members; negation comes after that.
-/

namespace Marginalia.Regex

set_option autoImplicit false

/-- A class: ranges of code points, in increasing order and with gaps between them. -/
structure CharClass where
  ranges : Array (Nat × Nat)
  deriving DecidableEq, Repr, Inhabited

namespace CharClass

/-- The greatest code point. -/
def maxChar : Nat := 0x10FFFF

/-- Joins neighbouring ranges that overlap or touch; they are in the order of their first
characters. -/
def joined : List (Nat × Nat) → List (Nat × Nat)
  | (a, b) :: (c, d) :: rest =>
    if c ≤ b + 1 then joined ((a, max b d) :: rest) else (a, b) :: joined ((c, d) :: rest)
  | rs => rs
termination_by rs => rs.length

/-- Puts a range before the first that starts no earlier. -/
def insert (r : Nat × Nat) : List (Nat × Nat) → List (Nat × Nat)
  | [] => [r]
  | s :: rest => if r.1 ≤ s.1 then r :: s :: rest else s :: insert r rest

/-- The characters of several ranges. -/
def ofRanges (rs : List (Nat × Nat)) : CharClass := ⟨(joined (rs.foldr insert [])).toArray⟩

/-- The characters from `lo` to `hi`. -/
def range (lo hi : Nat) : CharClass := ⟨#[(lo, hi)]⟩

/-- The characters of a table. -/
def ofTable (t : Unicode.Table) : CharClass := ofRanges (t.rows.toList.map fun row => (row.lo, row.hi))

/-- The characters of either class. -/
def union (a b : CharClass) : CharClass := ofRanges (a.ranges.toList ++ b.ranges.toList)

/-- The gaps between ranges in increasing order, from `start` on. -/
def gaps : (start : Nat) → List (Nat × Nat) → List (Nat × Nat)
  | start, [] => if start ≤ maxChar then [(start, maxChar)] else []
  | start, (lo, hi) :: rest =>
    if start < lo then (start, lo - 1) :: gaps (hi + 1) rest else gaps (hi + 1) rest

/-- The characters that are not in the class. -/
def complement (c : CharClass) : CharClass := ⟨(gaps 0 c.ranges.toList).toArray⟩

/-- Is `n` in one of the ranges with an index from `first` to before `last`? -/
def search (rs : Array (Nat × Nat)) (n first last : Nat) : Bool :=
  if _h : first < last then
    let mid := (first + last) / 2
    match rs[mid]? with
    | none => false
    | some (lo, hi) =>
      if n < lo then search rs n first mid
      else if hi < n then search rs n (mid + 1) last
      else true
  else false
termination_by last - first
decreasing_by
  all_goals omega

/-- Is `n` in the class? -/
def contains (c : CharClass) (n : Nat) : Bool := search c.ranges n 0 c.ranges.size

/-- All characters. -/
def everything : CharClass := range 0 maxChar

/-- All characters but the newline. -/
def noNewline : CharClass := complement (range 10 10)

/-- The characters that are equivalent to a member of the class without being alone with that. -/
def equivalents (c : CharClass) : CharClass :=
  ofRanges (Unicode.foldClasses.rows.toList.flatMap fun row =>
    let members := row.lo :: row.values
    if members.any c.contains then members.map fun n => (n, n) else [])

/-- With every character that differs from a member by case only, if `fold`. -/
def folded (fold : Bool) (c : CharClass) : CharClass := if fold then c.union c.equivalents else c

/-- The characters not in the class, if `negative`. -/
def signed (negative : Bool) (c : CharClass) : CharClass := if negative then c.complement else c

/-- The class of a single character; with `fold`, also what differs from it by case only. -/
def single (fold : Bool) (n : Nat) : CharClass :=
  if fold then ofRanges ((Unicode.foldClass n).map fun m => (m, m)) else range n n

/-! ## Classes of ASCII -/

def digits : List (Nat × Nat) := [(48, 57)]
def blanks : List (Nat × Nat) := [(9, 10), (12, 13), (32, 32)]
def wordChars : List (Nat × Nat) := [(48, 57), (65, 90), (95, 95), (97, 122)]

/-- The class of an escape such as `\d`; a capital letter stands for the other characters. -/
def ofEscape? (b : UInt8) : Option (Bool × List (Nat × Nat)) :=
  match b with
  | 100 => some (false, digits)
  | 68 => some (true, digits)
  | 115 => some (false, blanks)
  | 83 => some (true, blanks)
  | 119 => some (false, wordChars)
  | 87 => some (true, wordChars)
  | _ => none

/-- The classes that stand in brackets and colons, by name. -/
def named : List (String × List (Nat × Nat)) :=
  [("alnum", [(48, 57), (65, 90), (97, 122)]),
   ("alpha", [(65, 90), (97, 122)]),
   ("ascii", [(0, 127)]),
   ("blank", [(9, 9), (32, 32)]),
   ("cntrl", [(0, 31), (127, 127)]),
   ("digit", digits),
   ("graph", [(33, 126)]),
   ("lower", [(97, 122)]),
   ("print", [(32, 126)]),
   ("punct", [(33, 47), (58, 64), (91, 96), (123, 126)]),
   ("space", [(9, 13), (32, 32)]),
   ("upper", [(65, 90)]),
   ("word", wordChars),
   ("xdigit", [(48, 57), (65, 70), (97, 102)])]

/-- The class with a name between colons; a caret before the name stands for the other
characters. -/
def ofName? (name : Bytes) : Option (Bool × List (Nat × Nat)) :=
  let (negative, name) :=
    match name with
    | 94 :: rest => (true, rest)
    | _ => (false, name)
  (named.find? fun entry => utf8 entry.1 = name).map fun entry => (negative, entry.2)

/-! ## Categories and scripts -/

/-- The categories behind each short and long name of a category. -/
def categoryNames : List (List String × List Unicode.Category) :=
  [(["C", "Other"], [.cc, .cf, .cn, .co, .cs]),
   (["Cc", "Control", "cntrl"], [.cc]),
   (["Cf", "Format"], [.cf]),
   (["Cn", "Unassigned"], [.cn]),
   (["Co", "Private_Use"], [.co]),
   (["Cs", "Surrogate"], [.cs]),
   (["L", "Letter"], [.lu, .ll, .lt, .lm, .lo]),
   (["LC", "Cased_Letter"], [.lu, .ll, .lt]),
   (["Ll", "Lowercase_Letter"], [.ll]),
   (["Lm", "Modifier_Letter"], [.lm]),
   (["Lo", "Other_Letter"], [.lo]),
   (["Lt", "Titlecase_Letter"], [.lt]),
   (["Lu", "Uppercase_Letter"], [.lu]),
   (["M", "Mark", "Combining_Mark"], [.mn, .mc, .me]),
   (["Mc", "Spacing_Mark"], [.mc]),
   (["Me", "Enclosing_Mark"], [.me]),
   (["Mn", "Nonspacing_Mark"], [.mn]),
   (["N", "Number"], [.nd, .nl, .no]),
   (["Nd", "Decimal_Number", "digit"], [.nd]),
   (["Nl", "Letter_Number"], [.nl]),
   (["No", "Other_Number"], [.no]),
   (["P", "Punctuation", "punct"], [.pc, .pd, .ps, .pe, .pi, .pf, .po]),
   (["Pc", "Connector_Punctuation"], [.pc]),
   (["Pd", "Dash_Punctuation"], [.pd]),
   (["Pe", "Close_Punctuation"], [.pe]),
   (["Pf", "Final_Punctuation"], [.pf]),
   (["Pi", "Initial_Punctuation"], [.pi]),
   (["Po", "Other_Punctuation"], [.po]),
   (["Ps", "Open_Punctuation"], [.ps]),
   (["S", "Symbol"], [.sm, .sc, .sk, .so]),
   (["Sc", "Currency_Symbol"], [.sc]),
   (["Sk", "Modifier_Symbol"], [.sk]),
   (["Sm", "Math_Symbol"], [.sm]),
   (["So", "Other_Symbol"], [.so]),
   (["Z", "Separator"], [.zs, .zl, .zp]),
   (["Zl", "Line_Separator"], [.zl]),
   (["Zp", "Paragraph_Separator"], [.zp]),
   (["Zs", "Space_Separator"], [.zs])]

/-- A name without regard to case, underscores, hyphens and blanks. -/
def loose (name : Bytes) : Bytes :=
  (name.filter fun b => b != 95 && b != 45 && b != 32).map Bytes.lowerAscii

/-- The surrogates, which are no characters. -/
def surrogates : CharClass := range 0xD800 0xDFFF

/-- All characters of assigned categories. -/
def assigned : CharClass :=
  ofRanges (Unicode.Category.assigned.flatMap fun c => (ofTable c.table).ranges.toList)

/-- The class of a category; unassigned is what is in no category. -/
def ofCategory : Unicode.Category → CharClass
  | .cs => surrogates
  | .cn => (assigned.union surrogates).complement
  | c => ofTable c.table

/-- The class of the given categories. -/
def ofCategories (cats : List Unicode.Category) : CharClass :=
  ofRanges (cats.flatMap fun c => (ofCategory c).ranges.toList)

/-- Letters of one case or the other.  Where case does not matter this class stays as it is, for it
holds both cases already. -/
def casedLetters : List Unicode.Category := [.lu, .ll, .lt]

/-- The class with the name of a property: everything, all assigned characters, ASCII, a category or
a script; with `fold` also what differs from a member by case only. -/
def ofProperty? (fold : Bool) (name : Bytes) : Option CharClass :=
  let key := loose name
  if key = utf8 "any" then some everything
  else if key = utf8 "assigned" then some (ofCategory .cn).complement
  else if key = utf8 "ascii" then some (folded fold (range 0 127))
  else
    match categoryNames.find? fun entry => entry.1.any fun s => loose (utf8 s) = key with
    | some entry =>
      some (folded (fold && entry.2 != casedLetters) (ofCategories entry.2))
    | none =>
      (Unicode.scripts.find? fun entry => loose (utf8 entry.1) = key).map fun entry =>
        folded fold (ofTable entry.2)

end CharClass

end Marginalia.Regex
