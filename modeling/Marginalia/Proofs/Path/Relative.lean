import Marginalia.Proofs.Path.Clean

/-!
# Relative paths

A path that is shown relative to a directory must still say which place is meant.
Both are made absolute first.  A clean path from the root (`IsPlace`) is a list of
names, and two such lists part after a common beginning (`exists_common`).  If
nothing is left of the directory, what is left of the path is the relative path, and
joined to the directory it gives the path again (`join_names`).  Otherwise the way to
the path goes up first, which shows in its first element (`climbs_iff`), and the
absolute path is shown instead.

Whether a path lies below a directory is a matter of its text (`Within`): it goes on
where the directory ends, after a slash.  For clean paths from the root this is the
same as a common beginning of their elements (`within_iff`), so a name that merely
starts with the name of the directory, or with two dots, does not mislead the test.
-/

namespace Marginalia

set_option autoImplicit false

theorem Bytes.join_append {sep : UInt8} {xs ys : List Bytes} (left : xs ≠ []) (right : ys ≠ []) :
    Bytes.join [sep] (xs ++ ys) = Bytes.join [sep] xs ++ sep :: Bytes.join [sep] ys := by
  induction xs with
  | nil => exact absurd rfl left
  | cons x xs ih =>
    cases xs with
    | nil =>
      obtain ⟨y, ys, rfl⟩ := List.exists_cons_of_ne_nil right
      rw [List.singleton_append, Bytes.join_cons_cons, Bytes.join_singleton, List.append_assoc]
      rfl
    | cons x' xs =>
      rw [List.cons_append, List.cons_append, Bytes.join_cons_cons, ← List.cons_append,
        ih (by simp), Bytes.join_cons_cons, List.append_assoc, List.append_assoc, List.append_assoc]

namespace Path

open Bytes (slash)

variable {rooted : Bool} {stack es : List Bytes} {cwd path dir : Bytes} {e : Bytes}

/-! ## Names -/

theorem foldl_push_names (names : ∀ e ∈ es, IsName e) :
    es.foldl (push rooted) stack = es.reverse ++ stack := by
  induction es generalizing stack with
  | nil => rfl
  | cons e es ih =>
    obtain ⟨first, rest⟩ := List.forall_mem_cons.1 names
    rw [List.foldl_cons, push_name first, ih rest, List.reverse_cons, List.append_assoc,
      List.singleton_append]

theorem CleanStack.append_names (clean : CleanStack rooted stack) (names : ∀ e ∈ es, IsName e) :
    CleanStack rooted (es ++ stack) := by
  induction es with
  | nil => exact clean
  | cons e es ih =>
    obtain ⟨first, rest⟩ := List.forall_mem_cons.1 names
    exact .name first (ih rest)

theorem cleanStack_of_names (rooted : Bool) (names : ∀ e ∈ es, IsName e) :
    CleanStack rooted es.reverse := by
  have clean : CleanStack rooted (es.reverse ++ []) :=
    CleanStack.nil.append_names fun e member => names e (List.mem_reverse.1 member)
  rwa [List.append_nil] at clean

/-- At the root there is nothing to go up from, so all elements are names. -/
theorem CleanStack.isName (clean : CleanStack rooted stack) (root : rooted = true)
    (member : e ∈ stack) : IsName e := by
  induction clean with
  | nil => simp at member
  | up free _ => exact absurd (root.symm.trans free) (by decide)
  | name isName _ ih =>
    rcases List.mem_cons.1 member with rfl | member
    · exact isName
    · exact ih member

/-- What is written from names is taken apart into them; for no names at all, the directory itself is
written. -/
theorem elements_ofElements (free : ∀ e ∈ es, slash ∉ e) :
    elements (ofElements false es) = if es = [] then [here] else es := by
  by_cases none : es = []
  · rw [none]
    rfl
  · rw [if_neg none, ofElements, if_neg Bool.false_ne_true, if_neg (by rwa [List.isEmpty_iff]),
      elements, Bytes.splitAtByte_join none free]

/-- **Names that are joined to a path become its last elements.** -/
theorem join_names (nonempty : path ≠ []) (names : ∀ e ∈ es, IsName e) :
    join [path, ofElements false es] = ofElements (isAbsolute path) (cleanElements path ++ es) := by
  have steps : (elements (ofElements false es)).foldl (push (isAbsolute path))
      (cleanElements path).reverse = es.reverse ++ (cleanElements path).reverse := by
    rw [elements_ofElements fun e member => (names e member).noSlash]
    split
    next none =>
      rw [none]
      rfl
    next => exact foldl_push_names names
  rw [join_pair nonempty (ofElements_ne_nil (cleanStack_of_names false names)), clean,
    cleanElements_append nonempty, isAbsolute_append nonempty, steps, List.reverse_append,
    List.reverse_reverse, List.reverse_reverse]

/-- A path climbs exactly if its first element is a step to the parent directory. -/
theorem climbs_iff (path : Bytes) : climbs path = true ↔ (elements path).head? = some up := by
  have start : climbs path = true ↔ path = up ∨ ∃ rest, path = up ++ slash :: rest := by
    have starts : Bytes.startsWith (up ++ [slash]) path = true
        ↔ ∃ rest, path = up ++ slash :: rest := by
      rw [Bytes.startsWith, List.isPrefixOf_iff_prefix]
      constructor
      · rintro ⟨rest, rfl⟩
        exact ⟨rest, by rw [List.append_assoc]; rfl⟩
      · rintro ⟨rest, rfl⟩
        exact ⟨rest, by rw [List.append_assoc]; rfl⟩
    rw [climbs, Bool.or_eq_true, decide_eq_true_eq, starts]
  have noSlash : slash ∉ up := by decide
  rw [start, elements]
  constructor
  · rintro (rfl | ⟨rest, rfl⟩)
    · rw [Bytes.splitAtByte_of_notMem noSlash]
      rfl
    · rw [Bytes.splitAtByte_cut noSlash]
      rfl
  · intro first
    rcases Bytes.splitAtByte_cases slash path with ⟨_, whole⟩ | ⟨piece, rest, split, _, pieces⟩
    · rw [whole] at first
      exact .inl (Option.some.inj first)
    · rw [pieces] at first
      exact .inr ⟨rest, by rw [split, Option.some.inj first]⟩

theorem climbs_ofElements (free : ∀ e ∈ es, slash ∉ e) :
    climbs (ofElements false es) = true ↔ es.head? = some up := by
  rw [climbs_iff, elements_ofElements free]
  by_cases none : es = []
  · rw [none, if_pos rfl]
    decide
  · rw [if_neg none]

/-! ## Places -/

/-- A clean path from the root, which says of itself which place is meant. -/
structure IsPlace (path : Bytes) : Prop where
  rooted : isAbsolute path = true
  cleaned : clean path = path

/-- **The absolute form of a path is clean and starts at the root.** -/
theorem isPlace_absolute (rooted : isAbsolute cwd = true) (path : Bytes) :
    IsPlace (absolute cwd path) := by
  have whole : ∃ whole, absolute cwd path = clean whole ∧ isAbsolute whole = true := by
    by_cases own : isAbsolute path = true
    · exact ⟨path, by rw [absolute, if_pos own], own⟩
    · have nonempty : cwd ≠ [] := by
        rintro rfl
        exact absurd rooted (by decide)
      obtain ⟨rest, joined⟩ := exists_join nonempty [path]
      exact ⟨cwd ++ rest, by rw [absolute, if_neg own, joined],
        (isAbsolute_append nonempty).trans rooted⟩
  obtain ⟨whole, shape, rooted⟩ := whole
  rw [shape]
  exact ⟨by rw [isAbsolute_clean, rooted], clean_clean whole⟩

namespace IsPlace

theorem ne_nil (place : IsPlace path) : path ≠ [] := by
  rw [← place.cleaned]
  exact clean_ne_nil path

theorem eq (place : IsPlace path) : path = ofElements true (cleanElements path) := by
  conv => lhs; rw [← place.cleaned, clean, place.rooted]

theorem isName (place : IsPlace path) (member : e ∈ cleanElements path) : IsName e :=
  (cleanStack_cleanElements path).isName place.rooted (List.mem_reverse.2 member)

theorem cleanElements_eq_nil_iff (place : IsPlace path) : cleanElements path = [] ↔ path = [slash] := by
  constructor
  · intro none
    rw [place.eq, none]
    rfl
  · rintro rfl
    rfl

/-- Taken apart at its slashes, a path from the root gives an empty text and its elements, if it has
any. -/
theorem elements_eq (place : IsPlace path) (below : path ≠ [slash]) :
    elements path = [] :: cleanElements path := by
  have some : cleanElements path ≠ [] := fun none => below (place.cleanElements_eq_nil_iff.1 none)
  have apart : Bytes.splitAtByte slash (Bytes.join [slash] (cleanElements path)) = cleanElements path :=
    Bytes.splitAtByte_join some fun e member => (place.isName member).noSlash
  conv => lhs; rw [place.eq]
  rw [elements, ofElements, if_pos rfl, Bytes.splitAtByte_cons_sep, apart]

end IsPlace

/-- A path is a directory itself, or it goes on where the directory ends, after a slash. -/
def Within (dir path : Bytes) : Prop :=
  path = dir ∨ (if dir = [slash] then dir else dir ++ [slash]) <+: path

/-- **A path lies within a directory exactly if its elements begin with those of the directory.** -/
theorem within_iff (dirPlace : IsPlace dir) (place : IsPlace path) :
    Within dir path ↔ cleanElements dir <+: cleanElements path := by
  constructor
  · rintro (rfl | below)
    · exact List.prefix_refl _
    · by_cases root : dir = [slash]
      · rw [dirPlace.cleanElements_eq_nil_iff.2 root]
        exact List.nil_prefix
      · rw [if_neg root] at below
        obtain ⟨rest, rfl⟩ := below
        rw [List.append_assoc, List.singleton_append] at place ⊢
        have beyond : dir ++ slash :: rest ≠ [slash] := by
          intro eq
          rw [List.append_eq_singleton_iff] at eq
          rcases eq with ⟨none, -⟩ | ⟨-, none⟩
          · exact dirPlace.ne_nil none
          · simp at none
        have apart := place.elements_eq beyond
        rw [elements, Bytes.splitAtByte_append, ← elements, dirPlace.elements_eq root,
          List.cons_append, List.cons_inj_right] at apart
        exact ⟨_, apart⟩
  · rintro ⟨more, elements⟩
    by_cases none : more = []
    · rw [none, List.append_nil] at elements
      exact .inl (by rw [place.eq, ← elements, ← dirPlace.eq])
    · right
      by_cases root : dir = [slash]
      · rw [if_pos root, root, place.eq]
        exact ⟨_, rfl⟩
      · have some : cleanElements dir ≠ [] := fun none => root (dirPlace.cleanElements_eq_nil_iff.1 none)
        rw [if_neg root, place.eq, ← elements, ofElements, if_pos rfl, Bytes.join_append some none]
        conv => lhs; rw [dirPlace.eq]
        exact ⟨Bytes.join [slash] more, by simp [ofElements]⟩

/-! ## The way from one place to another -/

theorem exists_common (base path : List Bytes) :
    ∃ common, base = common ++ (parted base path).1 ∧ path = common ++ (parted base path).2 := by
  fun_induction parted base path with
  | case1 base p path ih =>
    obtain ⟨common, left, right⟩ := ih
    exact ⟨p :: common, congrArg (p :: ·) left, congrArg (p :: ·) right⟩
  | case2 => exact ⟨[], rfl, rfl⟩
  | case3 => exact ⟨[], rfl, rfl⟩

theorem parted_fst_eq_nil_iff (base path : List Bytes) :
    (parted base path).1 = [] ↔ base <+: path := by
  fun_induction parted base path with
  | case1 base p path ih => rw [ih, List.prefix_cons_inj]
  | case2 b base p path differ =>
    rw [List.cons_prefix_cons]
    exact ⟨by simp, fun same => absurd same.1 differ⟩
  | case3 base path parts =>
    cases base with
    | nil => simp
    | cons b base =>
      cases path with
      | nil => simp
      | cons p path => exact absurd rfl (parts b base p path rfl)

/-- Between two places there is always a way: up from the names that only the first one has, then down
along the names that only the second one has. -/
theorem way?_of_isPlace (dirPlace : IsPlace dir) (place : IsPlace path) :
    way? dir path = some (ofElements false
      ((parted (cleanElements dir) (cleanElements path)).1.map (fun _ => up)
        ++ (parted (cleanElements dir) (cleanElements path)).2)) := by
  obtain ⟨common, left, -⟩ := exists_common (cleanElements dir) (cleanElements path)
  have known : (parted (cleanElements dir) (cleanElements path)).1.head? ≠ some up := by
    intro first
    have member : up ∈ cleanElements dir := by
      rw [left]
      exact List.mem_append_right _ (List.mem_of_head? first)
    exact (dirPlace.isName member).ne_up rfl
  rw [way?]
  simp only [dirPlace.rooted, place.rooted, known, ne_eq, not_true_eq_false, or_self, if_false]

/-! ## What a relative path says -/

/-- What a path is shown as, seen from a directory: a path within the directory by the way down to it,
which leads back to it, and any other path by itself. -/
def ShownAs (dir path shown : Bytes) : Prop :=
  (Within dir path ∧ isAbsolute shown = false ∧ (elements shown).head? ≠ some up ∧
    join [dir, shown] = path) ∨
  (¬ Within dir path ∧ isAbsolute shown = true ∧ shown = path)

theorem ShownAs.unique {path' shown : Bytes} (as : ShownAs dir path shown)
    (as' : ShownAs dir path' shown) : path' = path := by
  rcases as with ⟨-, relative, -, leads⟩ | ⟨-, absolute, itself⟩
  · rcases as' with ⟨-, -, -, leads'⟩ | ⟨-, absolute', -⟩
    · exact leads'.symm.trans leads
    · exact absurd (absolute'.symm.trans relative) (by decide)
  · rcases as' with ⟨-, relative', -, -⟩ | ⟨-, -, itself'⟩
    · exact absurd (absolute.symm.trans relative') (by decide)
    · exact itself'.symm.trans itself

/-- What is left of a path within a directory leads down to it. -/
theorem shownAs_below (dirPlace : IsPlace dir) (place : IsPlace path)
    (split : cleanElements path = cleanElements dir ++ es) :
    climbs (ofElements false es) = false ∧ ShownAs dir path (clean (ofElements false es)) := by
  have names : ∀ e ∈ es, IsName e := fun e member =>
    place.isName (split ▸ List.mem_append_right _ member)
  have stacked := cleanStack_of_names false names
  have down : climbs (ofElements false es) ≠ true := by
    rw [ne_eq, climbs_ofElements fun e member => (names e member).noSlash]
    intro first
    exact (names up (List.mem_of_head? first)).ne_up rfl
  have cleaned : clean (ofElements false es) = ofElements false es := by
    rw [clean, isAbsolute_ofElements stacked, cleanElements_ofElements stacked]
  rw [cleaned]
  refine ⟨eq_false_of_ne_true down, .inl ⟨?_, ?_, ?_, ?_⟩⟩
  · exact (within_iff dirPlace place).2 ⟨es, split.symm⟩
  · exact isAbsolute_ofElements stacked
  · rwa [ne_eq, ← climbs_iff]
  · rw [join_names dirPlace.ne_nil names, dirPlace.rooted, ← split, ← place.eq]

/-- The way to a path that is not within a directory goes up first. -/
theorem climbs_of_not_within (dirPlace : IsPlace dir) (place : IsPlace path)
    (beyond : ¬ Within dir path) :
    climbs (ofElements false
      ((parted (cleanElements dir) (cleanElements path)).1.map (fun _ => up)
        ++ (parted (cleanElements dir) (cleanElements path)).2)) = true := by
  obtain ⟨common, -, right⟩ := exists_common (cleanElements dir) (cleanElements path)
  rw [within_iff dirPlace place, ← parted_fst_eq_nil_iff] at beyond
  obtain ⟨name, more, above⟩ := List.exists_cons_of_ne_nil beyond
  have free : ∀ e ∈ (parted (cleanElements dir) (cleanElements path)).1.map (fun _ => up)
      ++ (parted (cleanElements dir) (cleanElements path)).2, slash ∉ e := by
    intro e member
    rcases List.mem_append.1 member with isUp | below
    · obtain ⟨_, -, rfl⟩ := List.mem_map.1 isUp
      decide
    · exact (place.isName (right ▸ List.mem_append_right _ below)).noSlash
  rw [climbs_ofElements free, above]
  rfl

/-- **Every path is shown as it should be**, relative to a directory that may be given in any form. -/
theorem relative?_shownAs (rooted : isAbsolute cwd = true) (path base : Bytes) :
    ∃ shown, relative? cwd path base = some shown ∧
      ShownAs (absolute cwd base) (absolute cwd path) shown := by
  have dirPlace := isPlace_absolute rooted base
  have place := isPlace_absolute rooted path
  simp only [relative?, way?_of_isPlace dirPlace place, Option.map_some]
  refine ⟨_, rfl, ?_⟩
  by_cases within : Within (absolute cwd base) (absolute cwd path)
  · obtain ⟨common, left, right⟩ :=
      exists_common (cleanElements (absolute cwd base)) (cleanElements (absolute cwd path))
    have none := (parted_fst_eq_nil_iff _ _).2 ((within_iff dirPlace place).1 within)
    rw [none, List.append_nil] at left
    obtain ⟨down, as⟩ := shownAs_below dirPlace place (right.trans (by rw [← left]))
    rw [none, List.map_nil, List.nil_append, down]
    exact as
  · rw [climbs_of_not_within dirPlace place within, if_pos rfl, place.cleaned]
    exact .inr ⟨within, place.rooted, rfl⟩

/-- **A relative path denotes the place of the path.**  There always is one, it is shown as it should
be, and no other place is shown in the same way from the same directory. -/
theorem relative?_denotes (rooted : isAbsolute cwd = true) (path base : Bytes) :
    ∃ shown, relative? cwd path base = some shown ∧
      ShownAs (absolute cwd base) (absolute cwd path) shown ∧
      ∀ path', relative? cwd path' base = some shown → absolute cwd path' = absolute cwd path := by
  obtain ⟨shown, relative, as⟩ := relative?_shownAs rooted path base
  refine ⟨shown, relative, as, ?_⟩
  intro path' relative'
  obtain ⟨shown', same, as'⟩ := relative?_shownAs rooted path' base
  obtain rfl : shown' = shown := Option.some.inj (same.symm.trans relative')
  exact as.unique as'

/-- A name that starts with two dots stays below the directory, and one that starts with the name of
the directory lies outside. -/
theorem relative?_denotes_dotted :
    isAbsolute (utf8 "/w") = true ∧
    relative? (utf8 "/w") (utf8 "x//../..y") (utf8 "./") = some (utf8 "..y") ∧
    join [utf8 "/w", utf8 "..y"] = utf8 "/w/..y" ∧
    relative? (utf8 "/w") (utf8 "../wx/") [] = some (utf8 "/wx") ∧
    ¬ Within (utf8 "/w") (utf8 "/wx") := by
  have rooted : isAbsolute (utf8 "/w") = true := by decide
  have inside : relative? (utf8 "/w") (utf8 "x//../..y") (utf8 "./") = some (utf8 "..y") := by decide
  have outside : relative? (utf8 "/w") (utf8 "../wx/") [] = some (utf8 "/wx") := by decide
  refine ⟨rooted, inside, ?_, outside, ?_⟩
  · obtain ⟨shown, relative, as, -⟩ := relative?_denotes rooted (utf8 "x//../..y") (utf8 "./")
    obtain rfl : utf8 "..y" = shown := Option.some.inj (inside.symm.trans relative)
    rcases as with ⟨-, -, -, leads⟩ | ⟨-, absolute, -⟩
    · exact leads
    · exact absurd absolute (by decide)
  · obtain ⟨shown, relative, as, -⟩ := relative?_denotes rooted (utf8 "../wx/") []
    obtain rfl : utf8 "/wx" = shown := Option.some.inj (outside.symm.trans relative)
    rcases as with ⟨-, relative, -, -⟩ | ⟨beyond, -, -⟩
    · exact absurd relative (by decide)
    · exact beyond

end Path

end Marginalia
