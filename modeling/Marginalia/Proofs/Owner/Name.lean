import Marginalia.Owner.Pattern
import Marginalia.Proofs.Owner.Place
import Marginalia.Proofs.Owner.WordDecl
import Marginalia.Proofs.Steps
import Marginalia.Proofs.Text.Utf8

/-!
# Names in comments

A name is the first group of a pattern, so it is a part of its line, and it stands in
the text where the declaration says (`exists_named`).  The pattern may find it anywhere
on the line.

Whether the line counts as commented out is decided by one byte, the first that is not
blank.  Names are kept out of the comments that hold this byte, and out of no others: a
comment behind it can hold a name.  So can the comment that is left open at the end of
the text, if the name is found among the blanks of the last line
(`name_inside_iff`).
-/

namespace Marginalia

set_option autoImplicit false

/-! ## What a pattern finds -/

/-- The first group of a match is a part of the text. -/
theorem Regex.prefix_drop_of_firstGroup? {re : Regex} {text name : Bytes} {n : Nat}
    (found : re.firstGroup? text = some (n, name)) : name <+: text.drop n := by
  obtain ⟨bounds, -, group⟩ := Option.map_eq_some_iff.1 found
  split at group
  · rename_i i j _ _
    obtain ⟨length, rfl⟩ := Prod.mk.inj group
    have behind : text.drop n = Utf8.encode ((Utf8.decode text).drop i) := by
      have split : text = Utf8.encode ((Utf8.decode text).take i)
          ++ Utf8.encode ((Utf8.decode text).drop i) := by
        rw [Utf8.encode, Utf8.encode, ← List.flatMap_append, List.take_append_drop]
        exact (Utf8.encode_decode text).symm
      conv_lhs => rw [split, ← length]
      exact List.drop_left
    rw [behind]
    refine ⟨Utf8.encode (((Utf8.decode text).drop i).drop (j - i)), ?_⟩
    rw [Utf8.encode, Utf8.encode, ← List.flatMap_append, List.take_append_drop]
    rfl
  · cases group
    exact List.nil_prefix

/-- The matchers of accepted patterns look for the first group of an expression. -/
theorem LineMatcher.exists_regex {patterns : List Bytes} {matchers : List LineMatcher}
    (accepted : patterns.mapM LineMatcher.ofPattern = .ok matchers) :
    ∀ m ∈ matchers, ∃ re : Regex, m = re.firstGroup? := by
  obtain ⟨matcher, each, rfl⟩ := mapM_eq_ok_iff.1 accepted
  intro m member
  obtain ⟨source, among, rfl⟩ := List.mem_map.1 member
  have made := each source among
  rw [LineMatcher.ofPattern] at made
  split at made
  · cases made
  · rename_i re _
    split at made
    · cases made
    · exact ⟨re, (Except.ok.inj made).symm⟩

/-- The byte at an offset is one of the bytes of the comment. -/
def Comment.Covers (c : Comment) (offset : Nat) : Prop := c.offset ≤ offset ∧ offset < c.ending

namespace Decl

variable {normalize : Bool} {content : Bytes} {matchers : List LineMatcher}
  {comments : List Comment} {more : List Bytes} {d : Decl} {before text after : Bytes}

theorem exists_matcher {n : Nat} {name : Bytes} (found : nameOn matchers text = some (n, name)) :
    name ≠ [] ∧ ∃ m ∈ matchers, m text = some (n, name) := by
  obtain ⟨m, member, here⟩ := List.exists_of_findSome?_eq_some found
  obtain ⟨found', filled⟩ := Option.filter_eq_some_iff.1 here
  refine ⟨?_, m, member, found'⟩
  rintro rfl
  cases filled

/-- The name of a declaration stands in the text, on the line of the declaration. -/
structure Named (content : Bytes) (d : Decl) : Prop where
  filled : d.name ≠ []
  stands : d.name <+: content.drop d.nameStart
  first : d.lineStart ≤ d.nameStart
  last : d.nameStart + d.name.length < d.lineEnd

theorem StandsOn.drop_lineStart (place : d.StandsOn content comments before text after) :
    content.drop d.lineStart = text ++ after := by
  rw [place.split, place.lineStart]
  exact List.drop_left

/-- **What a pattern captures is a part of the line.** -/
theorem exists_named (accepted : LineMatcher.ofPatterns more = .ok matchers)
    (found : d ∈ find matchers content comments) :
    ∃ before text after, d.StandsOn content comments before text after ∧ d.Named content := by
  obtain ⟨before, text, after, next, place, here⟩ := exists_onLine found
  refine ⟨before, text, after, place, ?_⟩
  rw [onLine] at here
  split at here
  · cases here
  · obtain ⟨⟨n, name⟩, captured, same⟩ := Option.map_eq_some_iff.1 here
    obtain ⟨filled, m, member, matched⟩ := exists_matcher captured
    obtain ⟨re, rfl⟩ := LineMatcher.exists_regex accepted m member
    have isPart := Regex.prefix_drop_of_firstGroup? matched
    have named : d.name = name := by rw [← same]
    have start : d.nameStart = d.lineStart + n := by
      conv_lhs => rw [← same]
    have length := isPart.length_le
    have nonempty := List.length_pos_iff.2 filled
    rw [List.length_drop] at length
    refine ⟨named ▸ filled, ?_, by omega, ?_⟩
    · have behind : content.drop d.nameStart = text.drop n ++ after := by
        rw [start, ← List.drop_drop, place.drop_lineStart, List.drop_append_of_le_length (by omega)]
      rw [named, behind]
      exact isPart.trans (List.prefix_append _ _)
    · rw [place.lineEnd, start, place.lineStart, named]
      omega

/-- The offset of the first byte on the line that is neither a blank nor a tab, or of the end of the
line. -/
def firstFilled (content : Bytes) (d : Decl) : Nat := d.lineStart + indent (content.drop d.lineStart)

/-- The blanks at the beginning of a line do not reach beyond it. -/
theorem StandsOn.firstFilled_eq (place : d.StandsOn content comments before text after) :
    d.firstFilled content = d.lineStart + indent text := by
  have none : after.takeWhile (fun b => b == 32 || b == 9) = [] := by
    rcases place.ends with rfl | ⟨below, rfl⟩
    · rfl
    · rfl
  rw [firstFilled, place.drop_lineStart, indent, indent, List.takeWhile_append, none,
    List.append_nil]
  split
  · rename_i whole
    rw [whole]
  · rfl

/-- A comment that starts on the line of a declaration starts behind the blanks. -/
theorem StandsOn.firstFilled_le {c : Comment}
    (place : d.StandsOn content (Scan.ofText normalize content).comments before text after)
    (member : c ∈ (Scan.ofText normalize content).comments) (inside : d.lineStart ≤ c.offset) :
    d.firstFilled content ≤ c.offset := by
  by_contra early
  rw [place.firstFilled_eq] at early
  have start := place.lineStart
  have blank := place.blank_of_lt_indent (i := c.offset) (by omega) (by omega)
  rw [Scan.getElem?_offset member] at blank
  revert blank
  decide

/-- **When a name lies in a comment.**  The name that a pattern captures stands on its line, of which
the first byte that is not blank lies in no comment.  The name lies in a comment exactly when the
comment starts behind that byte, or when the line is blank up to the end of the text, where a comment
from above ends as well.  In a text whose offsets have 32 bits the declarations are those of the
program. -/
theorem name_inside_iff (normalize : Bool) (content : Bytes) (more : List Bytes)
    (matchers : List LineMatcher) (d : Decl)
    (accepted : LineMatcher.ofPatterns more = .ok matchers)
    (found : d ∈ find matchers content (Scan.ofText normalize content).comments) :
    d.Named content ∧
    (∀ c ∈ (Scan.ofText normalize content).comments, ¬ c.Covers (d.firstFilled content)) ∧
    ((∃ c ∈ (Scan.ofText normalize content).comments, c.Covers d.nameStart) ↔
      (∃ c ∈ (Scan.ofText normalize content).comments,
        d.firstFilled content < c.offset ∧ c.Covers d.nameStart) ∨
      d.firstFilled content = content.length ∧
        ∃ c ∈ (Scan.ofText normalize content).comments,
          c.offset < d.lineStart ∧ c.ending = content.length) ∧
    WordDecl.Unwrapped matchers content (Scan.ofText normalize content).comments := by
  obtain ⟨before, text, after, place, named⟩ := exists_named accepted found
  have filled := place.firstFilled_eq
  have outside : ∀ c ∈ (Scan.ofText normalize content).comments,
      ¬ c.Covers (d.firstFilled content) := by
    rintro c member ⟨starts, ends⟩
    rw [filled, place.lineStart] at starts ends
    have ended := ending_le_of_outside (Scan.comments_sorted normalize content) place.outside member
      starts
    omega
  refine ⟨named, outside, ?_, WordDecl.counts_find⟩
  have first := named.first
  constructor
  · rintro ⟨c, member, starts, ends⟩
    rcases Nat.lt_or_ge c.offset d.lineStart with above | inside
    · rcases ending_lt_or_eq member place above with ended | ⟨reaches, blank⟩
      · omega
      · exact .inr ⟨filled.trans blank, c, member, above, reaches⟩
    · have behind := place.firstFilled_le member inside
      have nonempty := Scan.offset_lt_ending member
      have elsewhere := outside c member
      refine .inl ⟨c, member, ?_, starts, ends⟩
      rw [Comment.Covers] at elsewhere
      omega
  · rintro (⟨c, member, -, covers⟩ | ⟨-, c, member, above, reaches⟩)
    · exact ⟨c, member, covers⟩
    · have bound := named.stands.length_le
      have nonempty := List.length_pos_iff.2 named.filled
      rw [List.length_drop] at bound
      refine ⟨c, member, ?_, ?_⟩
      · omega
      · omega

/-- A function that is commented out behind a call. -/
def behindCall : Bytes := utf8 "run(); // function ghost() \x7b\x7d\n"

/-- A pattern that finds functions anywhere on a line. -/
def anywhere : Bytes := utf8 "function\\s+(\\w+)"

/-- The function of `behindCall`. -/
def ghost : Decl := ⟨utf8 "ghost", 19, 1, 0, 30, 31⟩

/-- The function is found, in the comment. -/
theorem ghost_inside : ∃ matchers,
    LineMatcher.ofPatterns [anywhere] = .ok matchers ∧
    ghost ∈ find matchers behindCall (Scan.ofText false behindCall).comments ∧
    ∃ c ∈ (Scan.ofText false behindCall).comments, c.Covers ghost.nameStart := by
  have comments : (Scan.ofText false behindCall).comments = [⟨.line, utf8 " function ghost() \x7b\x7d",
      utf8 "// function ghost() \x7b\x7d", 7, 29, 1, 8, none⟩] := by
    decide +kernel
  have run : (LineMatcher.ofPatterns [anywhere]).toOption.map
      (find · behindCall (Scan.ofText false behindCall).comments) = some [ghost] := by
    simp only [LineMatcher.ofPatterns, defaultPatterns, anywhere, utf8_eq_data]
    decide +kernel
  obtain ⟨matchers, read, finds⟩ := Option.map_eq_some_iff.1 run
  have accepted : LineMatcher.ofPatterns [anywhere] = .ok matchers := by
    cases parsed : LineMatcher.ofPatterns [anywhere] with
    | error e =>
      rw [parsed] at read
      cases read
    | ok ms =>
      rw [parsed] at read
      cases read
      rfl
  have found : ghost ∈ find matchers behindCall (Scan.ofText false behindCall).comments := by
    rw [finds]
    exact List.mem_cons_self
  refine ⟨matchers, accepted, found, ?_⟩
  obtain ⟨-, -, inside, -⟩ := name_inside_iff false behindCall [anywhere] matchers ghost accepted found
  rw [inside]
  refine .inl ⟨_, comments ▸ List.mem_cons_self, ?_, ?_⟩
  · decide +kernel
  · exact ⟨by decide, by decide⟩

end Decl

end Marginalia
