import Marginalia.Proofs.Path.Relative

/-!
# Names at the end of a path

Names that are joined to a path, one by one or all at once, become its last elements
(`join_cons_names`, `join_join`), so a path with names at its end is never the path it
was made from (`join_cons_ne`).  The extension of such a path is that of its last name
(`extension_join`).
-/

namespace Marginalia.Path

set_option autoImplicit false

open Bytes (slash dot)

variable {path name : Bytes} {es : List Bytes}

theorem takeWhile_reverse {sep : UInt8} (absent : sep ∉ name) (rest : Bytes) :
    (name.reverse ++ rest).takeWhile (fun b => b ≠ sep)
      = name.reverse ++ rest.takeWhile fun b => b ≠ sep := by
  refine List.takeWhile_append_of_pos fun b member => ?_
  rw [decide_eq_true_eq]
  rintro rfl
  exact absent (List.mem_reverse.1 member)

theorem snd_splitLast_append (noSlash : slash ∉ name) (before : Bytes) :
    (splitLast (before ++ slash :: name)).2 = name := by
  have reversed : (before ++ slash :: name).reverse = name.reverse ++ slash :: before.reverse := by simp
  rw [splitLast, reversed, takeWhile_reverse noSlash, List.takeWhile_cons_of_neg (by decide),
    List.append_nil, List.reverse_reverse]

theorem snd_splitLast_of_noSlash (noSlash : slash ∉ name) : (splitLast name).2 = name := by
  have kept := takeWhile_reverse noSlash []
  rw [List.takeWhile_nil, List.append_nil] at kept
  rw [splitLast, kept, List.reverse_reverse]

/-! ## Extensions -/

/-- The extension of a path is a matter of its last element. -/
theorem extension_append (noSlash : slash ∉ name) (before : Bytes) :
    extension (before ++ slash :: name) = extension name := by
  rw [extension, snd_splitLast_append noSlash, extension, snd_splitLast_of_noSlash noSlash]

theorem extension_of_noDot (noSlash : slash ∉ name) (noDot : dot ∉ name) : extension name = [] := by
  have kept := takeWhile_reverse noDot []
  rw [List.takeWhile_nil, List.append_nil] at kept
  rw [extension, snd_splitLast_of_noSlash noSlash, kept, List.reverse_reverse, if_neg (Nat.lt_irrefl _)]

/-- The extension starts at the last dot. -/
theorem extension_dot {before rest : Bytes} (noSlash : slash ∉ before ++ dot :: rest)
    (noDot : dot ∉ rest) : extension (before ++ dot :: rest) = dot :: rest := by
  have reversed : (before ++ dot :: rest).reverse = rest.reverse ++ dot :: before.reverse := by simp
  have shorter : rest.length < (before ++ dot :: rest).length := by
    rw [List.length_append, List.length_cons]
    omega
  rw [extension, snd_splitLast_of_noSlash noSlash, reversed, takeWhile_reverse noDot,
    List.takeWhile_cons_of_neg (by decide), List.append_nil, List.reverse_reverse, if_pos shorter]

theorem exists_last {sep : UInt8} {s : Bytes} (member : sep ∈ s) :
    ∃ before after, s = before ++ sep :: after ∧ sep ∉ after := by
  obtain ⟨first, rest, split, absent⟩ := List.eq_append_cons_of_mem (List.mem_reverse.2 member)
  refine ⟨rest.reverse, first.reverse, ?_, fun inside => absent (List.mem_reverse.1 inside)⟩
  have whole := congrArg List.reverse split
  simpa using whole

/-- **An extension is the end of its path**, a dot and what follows it, without a dot or a slash in it. -/
theorem extension_suffix (path : Bytes) : extension path = [] ∨
    ∃ before rest, path = before ++ dot :: rest ∧ extension path = dot :: rest ∧ dot ∉ rest ∧
      slash ∉ rest := by
  have ofName : ∀ name : Bytes, slash ∉ name → extension name = [] ∨
      ∃ before rest, name = before ++ dot :: rest ∧ extension name = dot :: rest ∧ dot ∉ rest ∧
        slash ∉ rest := by
    intro name noSlash
    by_cases dotted : dot ∈ name
    · obtain ⟨before, rest, rfl, noDot⟩ := exists_last dotted
      refine .inr ⟨before, rest, rfl, extension_dot noSlash noDot, noDot, fun inside => noSlash ?_⟩
      exact List.mem_append_right _ (List.mem_cons_of_mem _ inside)
    · exact .inl (extension_of_noDot noSlash dotted)
  by_cases slashed : slash ∈ path
  · obtain ⟨above, name, rfl, noSlash⟩ := exists_last slashed
    rw [extension_append noSlash]
    rcases ofName name noSlash with none | ⟨before, rest, rfl, found⟩
    · exact .inl none
    · exact .inr ⟨above ++ slash :: before, rest, by simp, found⟩
  · exact ofName path slashed

theorem extension_eq_self_iff {rest : Bytes} :
    extension (dot :: rest) = dot :: rest ↔ dot ∉ rest ∧ slash ∉ rest := by
  constructor
  · intro same
    rcases extension_suffix (dot :: rest) with none | ⟨_, _, -, found, free⟩
    · rw [none] at same
      cases same
    · rw [same, List.cons.injEq] at found
      rwa [found.2]
  · rintro ⟨noDot, noSlash⟩
    have noSlash' : slash ∉ [] ++ dot :: rest := List.not_mem_cons_of_ne_of_not_mem (by decide) noSlash
    have found := extension_dot noSlash' noDot
    rwa [List.nil_append] at found

/-- What stands in front of a dot does not change the extension, unless it has a slash. -/
theorem extension_append_dotted {before rest : Bytes} (noSlash : slash ∉ before) :
    extension (before ++ dot :: rest) = extension (dot :: rest) := by
  by_cases slashed : slash ∈ dot :: rest
  · obtain ⟨above, name, split, noSlash'⟩ := exists_last slashed
    rw [split, ← List.append_assoc, extension_append noSlash', extension_append noSlash']
  · obtain ⟨between, last, split, noDot⟩ := exists_last (show dot ∈ dot :: rest from List.mem_cons_self)
    rw [split] at slashed
    have noSlash' : slash ∉ before ++ between ++ dot :: last := by
      rw [List.append_assoc, List.mem_append, not_or]
      exact ⟨noSlash, slashed⟩
    rw [split, ← List.append_assoc, extension_dot noSlash' noDot, extension_dot slashed noDot]

theorem extension_ofElements (rooted : Bool) (noSlash : slash ∉ name) :
    extension (ofElements rooted (es ++ [name])) = extension name := by
  have written : ofElements rooted (es ++ [name])
      = (if rooted then [slash] else []) ++ Bytes.join [slash] (es ++ [name]) := by
    cases rooted <;> simp [ofElements]
  rw [written]
  by_cases none : es = []
  · rw [none, List.nil_append, Bytes.join_singleton]
    cases rooted with
    | true => exact extension_append noSlash []
    | false => rfl
  · rw [Bytes.join_append none (by simp), Bytes.join_singleton, ← List.append_assoc]
    exact extension_append noSlash _

/-! ## Joining -/

/-- All names that are joined to a path become its last elements. -/
theorem join_cons_names (nonempty : path ≠ []) (names : ∀ e ∈ es, IsName e) (some : es ≠ []) :
    join (path :: es) = ofElements (isAbsolute path) (cleanElements path ++ es) := by
  have kept : es.filter (fun e => !e.isEmpty) = es := by
    rw [List.filter_eq_self]
    intro e member
    simpa using (names e member).nonempty
  have joined : join (path :: es) = clean (path ++ slash :: Bytes.join [slash] es) := by
    obtain ⟨e, es, rfl⟩ := List.exists_cons_of_ne_nil some
    rw [join, List.filter_cons_of_pos (by simpa using nonempty), kept]
    dsimp only
    rw [Bytes.join_cons_cons, List.append_assoc]
    rfl
  have apart : elements (Bytes.join [slash] es) = es :=
    Bytes.splitAtByte_join some fun e member => (names e member).noSlash
  rw [joined, clean, isAbsolute_append nonempty, cleanElements_append nonempty, apart,
    foldl_push_names names, List.reverse_append, List.reverse_reverse, List.reverse_reverse]

theorem isAbsolute_join (nonempty : path ≠ []) (isName : IsName name) :
    isAbsolute (join [path, name]) = isAbsolute path := by
  rw [join_pair nonempty isName.nonempty, isAbsolute_clean, isAbsolute_append nonempty]

/-- A name is joined to a path as to the clean path. -/
theorem join_clean (nonempty : path ≠ []) (isName : IsName name) :
    join [clean path, name] = join [path, name] := by
  have names : ∀ e ∈ [name], IsName e := by simpa using isName
  rw [join_cons_names (clean_ne_nil path) names (by simp), join_cons_names nonempty names (by simp),
    isAbsolute_clean, cleanElements_clean]

/-- Names can be joined to a path one after the other. -/
theorem join_join (nonempty : path ≠ []) (isName : IsName name) (names : ∀ e ∈ es, IsName e)
    (some : es ≠ []) : join (join [path, name] :: es) = join (path :: name :: es) := by
  rw [join_cons_names (join_ne_nil nonempty _) names some, isAbsolute_join nonempty isName,
    cleanElements_join_name nonempty isName,
    join_cons_names nonempty (List.forall_mem_cons.2 ⟨isName, names⟩) (List.cons_ne_nil _ _),
    List.append_assoc, List.singleton_append]

theorem cleanElements_join_names (nonempty : path ≠ []) (names : ∀ e ∈ es, IsName e) (some : es ≠ []) :
    cleanElements (join (path :: es)) = cleanElements path ++ es := by
  rw [join_cons_names nonempty names some]
  apply cleanElements_ofElements
  rw [List.reverse_append]
  exact (cleanStack_cleanElements path).append_names fun e member => names e (List.mem_reverse.1 member)

/-- Different names lead to different paths. -/
theorem join_cons_inj {es' : List Bytes} (nonempty : path ≠ []) (names : ∀ e ∈ es, IsName e)
    (some : es ≠ []) (names' : ∀ e ∈ es', IsName e) (some' : es' ≠ [])
    (same : join (path :: es) = join (path :: es')) : es = es' := by
  have elements := congrArg cleanElements same
  rw [cleanElements_join_names nonempty names some, cleanElements_join_names nonempty names' some']
    at elements
  exact List.append_cancel_left elements

/-- **What lies below a directory has another path than the directory.** -/
theorem join_cons_ne (nonempty : path ≠ []) (names : ∀ e ∈ es, IsName e) (some : es ≠ []) :
    join (path :: es) ≠ path := by
  intro same
  have length := congrArg (List.length ∘ cleanElements) same
  rw [Function.comp_apply, cleanElements_join_names nonempty names some, List.length_append,
    Function.comp_apply] at length
  exact some (List.eq_nil_of_length_eq_zero (by omega))

/-- **The extension is that of the last name.** -/
theorem extension_join (nonempty : path ≠ []) (names : ∀ e ∈ es ++ [name], IsName e) :
    extension (join (path :: (es ++ [name]))) = extension name := by
  rw [join_cons_names nonempty names (by simp), ← List.append_assoc]
  exact extension_ofElements _ (names name (by simp)).noSlash

end Marginalia.Path
