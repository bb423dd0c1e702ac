import Marginalia.Owner.Resolver
import Marginalia.Proofs.Extraction.Report
import Marginalia.Proofs.Outline.Regions
import Marginalia.Proofs.Owner.Smallest

/-!
# Declarations of Go do not compete

What a declaration at the top level of a file of Go owns is said here once more as a
relation, `TopDecl.Owns`, one rule for each form of a declaration.  The name of a
method starts with the type that is reached from its receiver through pointers,
parentheses and type arguments (`Term.Names`).

The regions of a file stand in a line (`lined_ofText?`), so no byte is in two of them.
A comment then has the name of the one region that its start lies in, or no owner
(`owners_of_go`): unlike among regions that are found line by line, the sizes of
regions never matter.
-/

namespace Marginalia

set_option autoImplicit false

namespace Outline

/-! ## What a declaration owns -/

/-- The name that a type comes down to behind pointers, parentheses and type arguments. -/
inductive Term.Names : Term → Bytes → Prop
  | name (text : Bytes) : Names (.name text) text
  | pointer {x : Term} {text : Bytes} : Names x text → Names (.pointer x) text
  | paren {x : Term} {text : Bytes} : Names x text → Names (.paren x) text
  | index {x : Term} {text : Bytes} : Names x text → Names (.index x) text

theorem Term.Names.receiverName_eq {x : Term} {text : Bytes} (names : x.Names text) :
    x.receiverName = text := by
  induction names with
  | name => rfl
  | pointer _ ih | paren _ ih | index _ ih => exact ih

/-- A type that has no such name, as one of another package, is named by a question mark. -/
theorem Term.receiverName_of_not_names {x : Term} (nameless : ∀ text, ¬ x.Names text) :
    x.receiverName = utf8 "?" := by
  fun_induction Term.receiverName x with
  | case1 x ih => exact ih fun text names => nameless text (.pointer names)
  | case2 text => exact absurd (.name text) (nameless text)
  | case3 x ih => exact ih fun text names => nameless text (.index names)
  | case4 x ih => exact ih fun text names => nameless text (.paren names)
  | case5 => rfl

/-- What a declaration owns, and by which name. -/
inductive TopDecl.Owns : TopDecl → Region → Prop
  /-- A function owns everything from its documentation, or else its keyword, to its end. -/
  | func (doc : Option Nat) (start stop : Nat) (name : Bytes) :
    Owns (.func doc start stop none name) ⟨name, doc.getD start, stop⟩
  /-- So does a method, whose name follows that of its type. -/
  | method (doc : Option Nat) (start stop : Nat) (name : Bytes) {receiver : Term} {base : Bytes} :
    receiver.Names base →
      Owns (.func doc start stop (some receiver) name) ⟨base ++ utf8 "." ++ name, doc.getD start, stop⟩
  /-- And so does one whose type has no name. -/
  | nameless (doc : Option Nat) (start stop : Nat) (name : Bytes) {receiver : Term} :
    (∀ base, ¬ receiver.Names base) →
      Owns (.func doc start stop (some receiver) name) ⟨utf8 "?." ++ name, doc.getD start, stop⟩
  /-- A type alone owns its declaration, from its own documentation, else that of the declaration, else
  the keyword. -/
  | alone (doc : Option Nat) (start stop : Nat) (spec : TypeSpec) :
    Owns (.types doc start stop [spec]) ⟨spec.name, (spec.doc.or doc).getD start, stop⟩
  /-- One of several types owns its part, from its own documentation, else its name. -/
  | grouped (doc : Option Nat) (start stop : Nat) {specs : List TypeSpec} {spec : TypeSpec} :
    spec ∈ specs → specs.length ≠ 1 →
      Owns (.types doc start stop specs) ⟨spec.name, spec.doc.getD spec.start, spec.stop⟩

theorem TopDecl.Owns.mem_regions {d : TopDecl} {r : Region} (owns : d.Owns r) : r ∈ d.regions := by
  cases owns with
  | func => exact List.mem_singleton_self _
  | method doc start stop name names =>
    rw [regions, funcName, names.receiverName_eq]
    exact List.mem_singleton_self _
  | nameless doc start stop name nameless =>
    rw [regions, funcName, Term.receiverName_of_not_names nameless]
    exact List.mem_singleton_self _
  | alone doc start stop spec =>
    rw [regions, Option.orElse_eq_or]
    exact List.mem_singleton_self _
  | grouped doc start stop member several =>
    rw [regions]
    · exact List.mem_map_of_mem member
    · rintro spec rfl
      exact several rfl

theorem TopDecl.owns_of_mem {d : TopDecl} {r : Region} (member : r ∈ d.regions) : d.Owns r := by
  match d with
  | .func doc start stop none name =>
    cases List.mem_singleton.1 member
    exact .func doc start stop name
  | .func doc start stop (some receiver) name =>
    cases List.mem_singleton.1 member
    by_cases names : ∃ base, receiver.Names base
    · obtain ⟨base, names⟩ := names
      rw [funcName, names.receiverName_eq]
      exact .method doc start stop name names
    · have nameless := not_exists.1 names
      rw [funcName, Term.receiverName_of_not_names nameless]
      exact .nameless doc start stop name nameless
  | .types doc start stop [spec] =>
    cases List.mem_singleton.1 member
    rw [Option.orElse_eq_or]
    exact .alone doc start stop spec
  | .types doc start stop [] => cases member
  | .types doc start stop (spec :: spec' :: more) =>
    obtain ⟨one, among, rfl⟩ := List.mem_map.1 member
    exact .grouped doc start stop among (by simp)
  | .other => cases member

/-- The regions of a file are what its declarations own. -/
theorem mem_regions_iff {decls : List TopDecl} {r : Region} :
    r ∈ regions decls ↔ ∃ d ∈ decls, d.Owns r := by
  rw [regions, List.mem_flatMap]
  exact exists_congr fun d => and_congr_right fun _ => ⟨TopDecl.owns_of_mem, TopDecl.Owns.mem_regions⟩

end Outline

/-! ## Regions that do not overlap -/

namespace Region

variable {rs : List Region} (apart : rs.Pairwise fun r s => r.stop ≤ s.start)

include apart

/-- An offset is in at most one of the regions. -/
theorem length_around_le_one (offset : Nat) : (rs.filter (·.holds offset)).length ≤ 1 := by
  have ordered := apart.filter (·.holds offset)
  have inside : ∀ r ∈ rs.filter (·.holds offset), r.holds offset = true :=
    fun r member => (List.mem_filter.1 member).2
  generalize rs.filter (·.holds offset) = around at ordered inside ⊢
  match around with
  | [] => exact Nat.zero_le _
  | [r] => exact Nat.le_refl _
  | r :: s :: more =>
    have before := (List.pairwise_cons.1 ordered).1 s List.mem_cons_self
    have first := inside r List.mem_cons_self
    have second := inside s (List.mem_cons_of_mem _ List.mem_cons_self)
    simp only [holds, Bool.and_eq_true, decide_eq_true_eq] at first second
    omega

/-- The region that an offset is in owns it. -/
theorem ownerAt_of_apart (offset : Nat) :
    ownerAt (bySize rs) offset = (rs.find? (·.holds offset)).map Region.name := by
  have same := (perm_bySize rs).filter (·.holds offset)
  have few := length_around_le_one apart offset
  rw [ownerAt, ← List.head?_filter]
  generalize rs.filter (·.holds offset) = around at same few ⊢
  match around with
  | [] =>
    rw [same.eq_nil]
    rfl
  | [r] =>
    rw [same.eq_singleton]
    rfl

end Region

/-- The comments of a scan have no owners yet, so regions decide on them alone. -/
theorem Scan.comments_owned (normalize : Bool) (content : Bytes) (rs : List Region) :
    ((Scan.ofText normalize content).owned rs).comments
      = (Scan.ofText normalize content).comments.map fun c =>
          { c with owner := Region.ownerAt (Region.bySize rs) c.offset } := by
  rw [Scan.owned, Region.assign, ← Scan.map_unowned_comments, List.map_map, List.map_map]
  refine List.map_congr_left fun c _ => ?_
  have place : c.unowned.offset = c.offset := rfl
  simp only [Function.comp_apply, place]
  cases Region.ownerAt (Region.bySize rs) c.offset <;> rfl

/-! ## The owners in a file of Go -/

/-- **Ownership in a file of Go is unambiguous.**  If a text is a file of Go, its regions are what its
functions, methods and types own, each region ends before the next one starts, and no byte is in two of
them.  Every comment has the name of the region that its start lies in as its owner, or none if there is
no such region. -/
theorem Outline.owners_of_go (normalize : Bool) (content : Bytes) (fallback : List LineMatcher)
    (decls : List TopDecl) (read : ofText? content = some decls) :
    (∀ r, r ∈ regions decls ↔ ∃ d ∈ decls, d.Owns r) ∧
    (regions decls).Pairwise (fun r s => r.stop ≤ s.start) ∧
    (∀ offset, ((regions decls).filter (·.holds offset)).length ≤ 1) ∧
    (Resolver.go fallback).resolve content (Scan.ofText normalize content)
      = ({ Scan.ofText normalize content with
            comments := (Scan.ofText normalize content).comments.map fun c =>
              { c with owner := ((regions decls).find? (·.holds c.offset)).map Region.name } },
          false) := by
  obtain ⟨high, line⟩ := lined_ofText? read
  have apart := line.pairwise
  refine ⟨fun r => mem_regions_iff, apart, Region.length_around_le_one apart, ?_⟩
  have owned := Scan.comments_owned normalize content (regions decls)
  simp only [Region.ownerAt_of_apart apart] at owned
  rw [Resolver.resolve, read, ← owned]
  rfl

namespace Outline

/-- A list with a method, and two types in a group.  The first comments are documentation; one stands
between declarations, and one behind a part of the group. -/
def listFile : Bytes :=
  utf8 "package p\n\n// A list.\ntype List[E any] []E\n\n" ++
  utf8 "// Len counts.\nfunc (l *List[E]) Len() int \x7b\n\treturn 0 // none\n\x7d\n\n// loose\n\n" ++
  utf8 "type (\n\t// One.\n\tOne int // one\n\tTwo int\n)\n"

theorem regions_listFile : (ofText? listFile).map regions
    = some [⟨utf8 "List", 11, 42⟩, ⟨utf8 "List.Len", 44, 108⟩, ⟨utf8 "One", 128, 144⟩,
      ⟨utf8 "Two", 153, 160⟩] := by
  decide +kernel

theorem comments_listFile :
    (Scan.ofText false listFile).comments.map Comment.offset = [11, 44, 99, 110, 128, 145] := by
  decide +kernel

/-- The method owns the comment in it, and is named after the type behind the pointer and the type
argument.  What stands between declarations, and behind a type in its group, has no owner. -/
theorem owners_listFile :
    ∃ decls, ofText? listFile = some decls ∧
      (regions decls).Pairwise (fun r s => r.stop ≤ s.start) ∧
      ((Resolver.go []).resolve listFile (Scan.ofText false listFile)).1.comments.map Comment.owner
        = [some (utf8 "List"), some (utf8 "List.Len"), some (utf8 "List.Len"), none,
          some (utf8 "One"), none] := by
  obtain ⟨decls, read, here⟩ := Option.map_eq_some_iff.1 regions_listFile
  obtain ⟨-, apart, -, resolved⟩ := owners_of_go false listFile [] decls read
  refine ⟨decls, read, apart, ?_⟩
  have byOffset : ∀ cs : List Comment,
      (cs.map fun c => { c with owner := ((regions decls).find? (·.holds c.offset)).map Region.name }).map
          Comment.owner
        = (cs.map Comment.offset).map fun offset =>
            ((regions decls).find? (·.holds offset)).map Region.name := by
    intro cs
    rw [List.map_map, List.map_map]
    rfl
  rw [resolved, byOffset, comments_listFile, here]
  decide +kernel

end Outline

end Marginalia
