import Marginalia.Proofs.Owner.Body
import Marginalia.Proofs.Owner.Matching
import Marginalia.Proofs.Owner.Name
import Marginalia.Proofs.Owner.WordDecl
import Marginalia.Proofs.Scan.Faithful

/-!
# Which lines declare something

A line declares something if its first byte that is neither a blank nor a tab lies in no
comment and a matcher finds a name on it (`Decl.Declares`).  The search goes through the
lines one by one.  It finds a declaration for each line that declares something, and for
no other, in the order of the lines (`Decl.mem_onLines_iff`).

A declaration has the number and the bounds of its line and the end of the line behind it
(`Decl.Describes`).  They are below 2^32 for texts that are two bytes shorter than that, so
the search finds the same if it counts in 32 bits (`WordDecl.counts_find`).  Regions
start at the line of their declaration or above it, and end behind the beginning of the
line and in the text, or right behind it; so their size is never the difference of a number
and a greater one.
-/

namespace Marginalia

set_option autoImplicit false

namespace Decl

variable {matchers : List LineMatcher} {content : Bytes} {comments : List Comment}
  {before text after : Bytes} {found : Nat × Bytes} {d : Decl} {line start : Nat}

/-! ## Lines that declare something -/

/-- The first of the matchers to find a name on a line that is not empty. -/
def NamedBy (matchers : List LineMatcher) (text : Bytes) (found : Nat × Bytes) : Prop :=
  ∃ earlier m later, matchers = earlier ++ m :: later ∧
    (∀ m' ∈ earlier, ∀ n name, m' text = some (n, name) → name = []) ∧
    m text = some found ∧ found.2 ≠ []

/-- A line starts with so many blanks and tabs, and what follows them, if anything does, is another
byte. -/
def Indented (text : Bytes) (n : Nat) : Prop :=
  ∃ blanks rest, text = blanks ++ rest ∧ blanks.length = n ∧
    (∀ b ∈ blanks, b = Bytes.space ∨ b = Bytes.tab) ∧
    ∀ b, rest.head? = some b → b ≠ Bytes.space ∧ b ≠ Bytes.tab

/-- A line of a content declares something: the position of its first byte that is neither a blank nor
a tab, or its end, lies in no comment, and `found` is the name on it, with its distance from the
beginning of the line. -/
structure Declares (matchers : List LineMatcher) (comments : List Comment)
    (content before text after : Bytes) (found : Nat × Bytes) : Prop where
  line : Bytes.IsLine content before text after
  clear : ∃ n, Indented text n ∧ ∀ c ∈ comments, ¬ c.Covers (before.length + n)
  named : NamedBy matchers text found

/-- What a declaration says of its line. -/
structure Describes (d : Decl) (before text after : Bytes) (found : Nat × Bytes) : Prop where
  name : d.name = found.2
  nameStart : d.nameStart = before.length + found.1
  line : d.line = before.count Bytes.newline + 1
  lineStart : d.lineStart = before.length
  lineEnd : d.lineEnd = before.length + text.length + 1
  /-- the body may open up to the end of the next line -/
  headEnd : ∀ next rest, after = Bytes.newline :: (next ++ rest) → Bytes.newline ∉ next →
    (rest = [] ∨ ∃ below, rest = Bytes.newline :: below) → d.headEnd = d.lineEnd + next.length + 1
  beyond : d.lineEnd < d.headEnd

theorem nameOn_eq_some_iff : nameOn matchers text = some found ↔ NamedBy matchers text found := by
  have unnamed (m : LineMatcher) : (m text).filter (fun found => !found.2.isEmpty) = none ↔
      ∀ n name, m text = some (n, name) → name = [] := by
    rw [Option.filter_eq_none_iff]
    simp
  have named (m : LineMatcher) : (m text).filter (fun found => !found.2.isEmpty) = some found ↔
      m text = some found ∧ found.2 ≠ [] := by
    rw [Option.filter_eq_some_iff]
    simp
  rw [nameOn, List.findSome?_eq_some_iff]
  simp only [unnamed, named, NamedBy]
  constructor
  · rintro ⟨earlier, m, later, split, here, none⟩
    exact ⟨earlier, m, later, split, none, here⟩
  · rintro ⟨earlier, m, later, split, none, here⟩
    exact ⟨earlier, m, later, split, here, none⟩

theorem indented_iff {n : Nat} : Indented text n ↔ n = indent text := by
  rw [indent]
  constructor
  · rintro ⟨blanks, rest, rfl, rfl, blank, solid⟩
    have none : rest.takeWhile (fun b => b == 32 || b == 9) = [] := by
      cases rest with
      | nil => rfl
      | cons b rest =>
        obtain ⟨notSpace, notTab⟩ := solid b rfl
        exact List.takeWhile_cons_of_neg (by simpa using ⟨notSpace, notTab⟩)
    rw [List.takeWhile_append_of_pos fun b member => by simpa using blank b member, none,
      List.append_nil]
  · rintro rfl
    refine ⟨_, text.dropWhile fun b => b == 32 || b == 9, List.takeWhile_append_dropWhile.symm, rfl,
      fun b member => by simpa using List.mem_takeWhile_imp member, ?_⟩
    intro b first
    have solid := List.head?_dropWhile_not (fun b => b == 32 || b == 9) text
    rw [first] at solid
    simpa using solid

/-- A position lies in a comment if and only if a comment covers it. -/
theorem insideComment_eq_false_iff {offset : Nat}
    (sorted : comments.Pairwise fun c d => c.offset ≤ d.offset) :
    insideComment comments offset = false ↔ ∀ c ∈ comments, ¬ c.Covers offset := by
  constructor
  · rintro outside c member ⟨starts, ends⟩
    have ended := ending_le_of_outside sorted outside member starts
    omega
  · intro clear
    rw [insideComment, List.any_eq_false]
    intro c reached
    have early := List.mem_takeWhile_imp reached
    have uncovered := clear c ((List.takeWhile_prefix _).subset reached)
    rw [Comment.Covers] at uncovered
    simp only [decide_eq_true_eq] at early ⊢
    omega

/-! ## The search -/

/-- The line that a text goes on with behind the end of a line. -/
def following : Bytes → Option Bytes
  | [] => none
  | _ :: below => (Bytes.lines below).head?

/-- **The search looks at each line of a text once**, at its place. -/
theorem mem_onLines_iff {s : Bytes} :
    d ∈ onLines matchers comments line start s.lines ↔
      ∃ before text after, Bytes.IsLine s before text after ∧
        onLine matchers comments (line + before.count Bytes.newline) (start + before.length) text
          (following after) = some d := by
  induction s using Bytes.lines_induction generalizing line start with
  | oneLine s oneLine =>
    rw [Bytes.lines_of_oneLine oneLine, onLines, onLines, List.append_nil, Option.mem_toList]
    simp only [Bytes.isLine_of_oneLine_iff oneLine]
    constructor
    · intro here
      exact ⟨[], s, [], ⟨rfl, rfl, rfl⟩, here⟩
    · rintro ⟨_, _, _, ⟨rfl, rfl, rfl⟩, here⟩
      exact here
  | line piece rest absent ih =>
    rw [Bytes.lines_cut absent, onLines, List.mem_append, Option.mem_toList, ih]
    simp only [Bytes.isLine_cut_iff absent]
    have count (s : Bytes) : line + (piece ++ Bytes.newline :: s).count Bytes.newline
        = line + 1 + s.count Bytes.newline := by
      rw [Bytes.count_newline_cut absent]
      omega
    have length (s : Bytes) : start + (piece ++ Bytes.newline :: s).length
        = start + piece.length + 1 + s.length := by
      rw [List.length_append, List.length_cons]
      omega
    constructor
    · rintro (here | ⟨before, text, after, place, here⟩)
      · exact ⟨[], piece, Bytes.newline :: rest, .inl ⟨rfl, rfl, rfl⟩, here⟩
      · refine ⟨piece ++ Bytes.newline :: before, text, after, .inr ⟨before, rfl, place⟩, ?_⟩
        rw [count, length]
        exact here
    · rintro ⟨_, text, after, ⟨rfl, rfl, rfl⟩ | ⟨before, rfl, place⟩, here⟩
      · exact .inl here
      · rw [count, length] at here
        exact .inr ⟨before, text, after, place, here⟩

theorem onLine_eq_some_iff {next : Option Bytes} :
    onLine matchers comments line start text next = some d ↔
      insideComment comments (start + indent text) = false ∧
      ∃ found, nameOn matchers text = some found ∧
        d = { name := found.2, nameStart := start + found.1, line, lineStart := start,
              lineEnd := start + text.length + 1,
              headEnd := start + text.length + 1 + next.elim 0 List.length + 1 } := by
  rw [onLine]
  cases insideComment comments (start + indent text) with
  | true => simp
  | false =>
    rw [if_neg (by decide), Option.map_eq_some_iff]
    simp only [true_and, eq_comm]

/-- The declaration on a line. -/
def ofLine (before text after : Bytes) (found : Nat × Bytes) : Decl :=
  { name := found.2
    nameStart := before.length + found.1
    line := before.count Bytes.newline + 1
    lineStart := before.length
    lineEnd := before.length + text.length + 1
    headEnd := before.length + text.length + 1 + (following after).elim 0 List.length + 1 }

theorem describes_ofLine (before text after : Bytes) (found : Nat × Bytes) :
    (ofLine before text after found).Describes before text after found where
  name := rfl
  nameStart := rfl
  line := rfl
  lineStart := rfl
  lineEnd := rfl
  headEnd next rest split oneLine ends := by
    have next_ : following after = some next := by
      rw [split, following]
      rcases ends with rfl | ⟨below, rfl⟩
      · rw [List.append_nil, Bytes.lines_of_oneLine oneLine]
        rfl
      · rw [Bytes.lines_cut oneLine]
        rfl
    rw [ofLine, next_]
    rfl
  beyond := by
    simp only [ofLine]
    omega

/-- **Declarations are found on the lines that declare something, and on no other.** -/
theorem mem_find_iff (sorted : comments.Pairwise fun c d => c.offset ≤ d.offset) :
    d ∈ find matchers content comments ↔
      ∃ before text after found, Declares matchers comments content before text after found ∧
        d = ofLine before text after found := by
  have everywhere : d ∈ find matchers content comments ↔ _ := mem_onLines_iff (s := content)
  rw [everywhere]
  simp only [onLine_eq_some_iff, nameOn_eq_some_iff, insideComment_eq_false_iff sorted,
    Nat.zero_add, Nat.add_comm 1]
  constructor
  · rintro ⟨before, text, after, place, clear, found, named, rfl⟩
    exact ⟨before, text, after, found, ⟨place, ⟨_, indented_iff.2 rfl, clear⟩, named⟩, rfl⟩
  · rintro ⟨before, text, after, found, ⟨place, ⟨n, indented, clear⟩, named⟩, rfl⟩
    rw [indented_iff.1 indented] at clear
    exact ⟨before, text, after, place, clear, found, named, rfl⟩

theorem line_le_of_mem_onLines {texts : List Bytes}
    (member : d ∈ onLines matchers comments line start texts) : line ≤ d.line := by
  induction texts generalizing line start with
  | nil => cases member
  | cons text texts ih =>
    rw [onLines, List.mem_append, Option.mem_toList] at member
    rcases member with here | later
    · obtain ⟨-, number, -⟩ := onLine_eq_some here
      exact Nat.le_of_eq number.symm
    · exact Nat.le_of_succ_le (ih later)

/-- Of two declarations the one that is found first has the smaller number. -/
theorem find_pairwise_line (matchers : List LineMatcher) (content : Bytes)
    (comments : List Comment) :
    (find matchers content comments).Pairwise fun d e => d.line < e.line := by
  refine onLines_pairwise (fun here later => ?_) 1 0 _
  obtain ⟨-, number, -⟩ := onLine_eq_some here
  rw [number]
  exact line_le_of_mem_onLines later

/-! ## Regions in the text -/

/-- A body ends behind a brace of the text. -/
theorem bodyEnd_le_length {normalize : Bool} {content : Bytes} {first limit stop : Nat}
    (found : bodyEnd (Scan.ofText normalize content).braces first limit = some stop) :
    stop ≤ content.length := by
  obtain ⟨_, last, -, ⟨before, inner, after, split, -⟩, rfl⟩ :=
    (bodyEnd_eq_some_iff_matches (Scan.braces_pairwise normalize content)).1 found
  have member : ⟨.closing, last⟩ ∈ (Scan.ofText normalize content).braces := by
    rw [split]
    simp
  exact (List.getElem?_eq_some_iff.1 (Scan.getElem?_of_mem_braces member)).1

/-- A region ends in the text, or right behind it if its declaration is on the last line. -/
theorem stop_le {normalize : Bool} {content : Bytes} {matchers : List LineMatcher} {d : Decl}
    (found : d ∈ find matchers content (Scan.ofText normalize content).comments)
    (next : Option Decl) :
    (d.region (Scan.ofText normalize content) next).stop ≤ content.length + 1 := by
  simp only [region]
  cases body : bodyEnd (Scan.ofText normalize content).braces d.lineStart
      (next.elim d.headEnd fun n => min d.headEnd n.lineStart) with
  | none =>
    obtain ⟨before, text, after, place⟩ := exists_standsOn found
    have length := congrArg List.length place.split
    have := place.lineEnd
    rw [List.length_append, List.length_append] at length
    rw [Option.getD_none]
    omega
  | some stop => exact Nat.le_succ_of_le (bodyEnd_le_length body)

/-- What is found in a text are the declarations on its lines, and regions in it. -/
structure FindsExactly (normalize : Bool) (content : Bytes) (matchers : List LineMatcher) : Prop where
  /-- each declaration describes a line that declares something -/
  sound : ∀ d ∈ find matchers content (Scan.ofText normalize content).comments,
    ∃ before text after found,
      Declares matchers (Scan.ofText normalize content).comments content before text after found ∧
        d.Describes before text after found
  /-- each line that declares something is described -/
  complete : ∀ before text after found,
    Declares matchers (Scan.ofText normalize content).comments content before text after found →
      ∃ d ∈ find matchers content (Scan.ofText normalize content).comments,
        d.Describes before text after found
  /-- by one declaration only, and these are in the order of the lines -/
  inOrder : (find matchers content (Scan.ofText normalize content).comments).Pairwise
    fun d e => d.line < e.line
  /-- and they are the same if 32 bits are counted -/
  unwrapped : List.Forall₂ WordDecl.Counts
    (WordDecl.find matchers content (Scan.ofText normalize content).comments)
    (find matchers content (Scan.ofText normalize content).comments)
  /-- the region of each holds the beginning of the line, and does not go beyond the text by more than
  the newline that the last line does not have -/
  regions : ∀ (i : Nat) (r : Region),
    ((Scan.ofText normalize content).regionsByLine matchers content)[i]? = some r →
      ∃ d, (find matchers content (Scan.ofText normalize content).comments)[i]? = some d ∧
        r.start ≤ d.lineStart ∧ d.lineStart < r.stop ∧ r.stop ≤ content.length + 1

/-- **The declarations of a text are exactly those on its lines.** -/
theorem find_exact (normalize : Bool) (content : Bytes) (matchers : List LineMatcher)
    (short : content.length < UInt32.size - 2) : FindsExactly normalize content matchers where
  sound d member := by
    obtain ⟨before, text, after, found, declares, rfl⟩ :=
      (mem_find_iff (Scan.comments_sorted normalize content)).1 member
    exact ⟨before, text, after, found, declares, describes_ofLine before text after found⟩
  complete before text after found declares :=
    ⟨ofLine before text after found,
      (mem_find_iff (Scan.comments_sorted normalize content)).2
        ⟨before, text, after, found, declares, rfl⟩,
      describes_ofLine before text after found⟩
  inOrder := find_pairwise_line ..
  unwrapped := WordDecl.counts_find (Nat.add_lt_of_lt_sub short)
  regions i r owns := by
    rw [Scan.regionsByLine, getElem?_regions] at owns
    obtain ⟨d, here, rfl⟩ := Option.map_eq_some_iff.1 owns
    have member := List.mem_of_getElem? here
    exact ⟨d, here, docStart_le normalize content d, lineStart_lt_stop member _ _, stop_le member _⟩

/-- A function in a comment, one with a body, and one on the last line. -/
def lastLineText : Bytes := utf8 "/*\nfn a()\n*/\n\tfn b() \x7b\n\x7d\nfn c()"

/-- A matcher that finds nothing but empty names, and one that recognises functions. -/
def lastLineMatchers : List LineMatcher := [fun _ => some (0, []), fnLine]

/-- The function with a body, and the one on the last line. -/
def lastLineDecls : List Decl := [⟨utf8 "b", 17, 4, 13, 23, 25⟩, ⟨utf8 "c", 28, 6, 25, 32, 33⟩]

/-- The function in the comment is not found, and the one on the last line owns a byte more than the
text has. -/
theorem find_exact_lastLineText :
    lastLineText.length < UInt32.size - 2 ∧
    find lastLineMatchers lastLineText (Scan.ofText false lastLineText).comments = lastLineDecls ∧
    (∀ before text after found,
      Declares lastLineMatchers (Scan.ofText false lastLineText).comments lastLineText before text after
        found → found.2 = utf8 "b" ∨ found.2 = utf8 "c") ∧
    ∃ r, ((Scan.ofText false lastLineText).regionsByLine lastLineMatchers lastLineText)[1]? = some r ∧
      r.start ≤ 25 ∧ 25 < r.stop ∧ r.stop = lastLineText.length + 1 := by
  have decls : find lastLineMatchers lastLineText (Scan.ofText false lastLineText).comments
      = lastLineDecls := by decide +kernel
  have short : lastLineText.length < UInt32.size - 2 := by decide +kernel
  have exact := find_exact false lastLineText lastLineMatchers short
  refine ⟨short, decls, ?_, ?_⟩
  · intro before text after found declares
    obtain ⟨d, member, describes⟩ := exact.complete before text after found declares
    rw [decls, lastLineDecls, List.mem_pair] at member
    rw [← describes.name]
    rcases member with rfl | rfl
    · exact .inl rfl
    · exact .inr rfl
  · have last : ((Scan.ofText false lastLineText).regionsByLine lastLineMatchers lastLineText)[1]?
        = some ⟨utf8 "c", 25, 32⟩ := by decide +kernel
    obtain ⟨d, here, starts, holds, -⟩ := exact.regions 1 _ last
    rw [decls] at here
    cases here
    exact ⟨_, last, starts, holds, by decide +kernel⟩

end Decl

end Marginalia
