import Marginalia.Config.Basic
import Marginalia.Proofs.Steps
import Marginalia.Proofs.Unicode.LowerCase
import Mathlib.Tactic.Choose

/-!
# Validated settings

An extension in its usual form is trimmed, in lower case, and starts with a dot that
something follows (`IsUsual`).  Validation brings every extension into this form and
leaves those that are in it alone (`extension?_eq_some_iff`).  So settings that were
validated once are validated again without a change, and everything that is made from
them later can be made: the options of a run and, for every path, a resolver
(`validate_settles`).
-/

namespace Marginalia

set_option autoImplicit false

open Bytes (dot)

/-! ## Extensions -/

namespace Config

/-- An extension in its usual form. -/
structure IsUsual (e : Bytes) : Prop where
  trimmed : e.trim = e
  small : Unicode.lower e = e
  dotted : ∃ rest, rest ≠ [] ∧ e = dot :: rest

theorem toLower_dot : Unicode.toLower '.' = '.' := by
  decide +kernel

/-- A dot in front of a text is no matter of case. -/
theorem lower_dot (s : Bytes) : Unicode.lower (dot :: s) = dot :: Unicode.lower s := by
  have first := Unicode.lower_char_append '.' s
  rw [toLower_dot] at first
  exact first

/-- A dot in front of a trimmed text leaves it trimmed. -/
theorem trim_dot {s : Bytes} (trimmed : s.trim = s) : Bytes.trim (dot :: s) = dot :: s := by
  have solid : ∀ c ∈ ['.'], isSpace c = false := List.forall_mem_singleton.2 rfl
  exact Bytes.trim_solid_append_of_trim solid (List.cons_ne_nil _ _) trimmed

theorem startsWith_dot_iff {e : Bytes} : Bytes.startsWith (utf8 ".") e = true ↔ ∃ rest, e = dot :: rest := by
  have bytes : utf8 "." = [dot] := rfl
  rw [bytes, Bytes.startsWith, List.isPrefixOf_iff_prefix]
  exact ⟨fun ⟨rest, whole⟩ => ⟨rest, whole.symm⟩, fun ⟨rest, whole⟩ => ⟨rest, whole.symm⟩⟩

/-- The usual form is kept. -/
theorem extension?_of_usual {e : Bytes} (usual : IsUsual e) : extension? e = some e := by
  obtain ⟨trimmed, small, rest, some, rfl⟩ := usual
  have right : (decide (dot :: rest = []) || decide (dot :: rest = utf8 ".")) = false := by
    rw [Bool.or_eq_false_iff, decide_eq_false_iff_not, decide_eq_false_iff_not]
    exact ⟨List.cons_ne_nil _ _, fun same => some (List.cons.inj same).2⟩
  have dotted : Bytes.startsWith (utf8 ".") (dot :: rest) = true := startsWith_dot_iff.2 ⟨rest, rfl⟩
  simp only [extension?, trimmed, small, right, dotted, if_true, Bool.false_eq_true, if_false]

/-- **What validation makes of an extension is in the usual form.** -/
theorem isUsual_of_extension? {text e : Bytes} (made : extension? text = some e) : IsUsual e := by
  have trimmed : (Unicode.lower text.trim).trim = Unicode.lower text.trim :=
    Unicode.trim_lower_of_trim (Bytes.trim_trim text)
  have small := Unicode.lower_lower text.trim
  simp only [extension?] at made
  generalize Unicode.lower text.trim = form at *
  split at made
  next => cases made
  next right =>
  rw [Bool.not_eq_true, Bool.or_eq_false_iff, decide_eq_false_iff_not, decide_eq_false_iff_not] at right
  split at made
  next dotted =>
    cases made
    obtain ⟨rest, rfl⟩ := startsWith_dot_iff.1 dotted
    exact ⟨trimmed, small, rest, fun none => right.2 (by rw [none]; rfl), rfl⟩
  next =>
    cases made
    have small' : Unicode.lower (dot :: form) = dot :: form := by rw [lower_dot, small]
    exact ⟨trim_dot trimmed, small', form, right.1, rfl⟩

theorem extensions?_of_usual {es : List Bytes} (usual : ∀ e ∈ es, IsUsual e) (index : Nat) :
    extensions? index es = .ok es := by
  induction es generalizing index with
  | nil => rfl
  | cons e es ih =>
    rw [List.forall_mem_cons] at usual
    rw [extensions?, extension?_of_usual usual.1, ih usual.2]
    rfl

theorem isUsual_of_extensions? {texts es : List Bytes} {index : Nat}
    (made : extensions? index texts = .ok es) : es.length = texts.length ∧ ∀ e ∈ es, IsUsual e := by
  induction texts generalizing index es with
  | nil =>
    cases made
    exact ⟨rfl, by simp⟩
  | cons text texts ih =>
    rw [extensions?] at made
    split at made
    next => cases made
    next e first =>
    cases rest : extensions? (index + 1) texts with
    | error fault =>
      rw [rest] at made
      cases made
    | ok es' =>
      rw [rest] at made
      cases made
      obtain ⟨length, usual⟩ := ih rest
      exact ⟨by simp [length], List.forall_mem_cons.2 ⟨isUsual_of_extension? first, usual⟩⟩

/-! ## Validation -/

variable {c c' : Config}

/-- **When settings are right, and what becomes of them.** -/
theorem validate_eq_ok_iff :
    c.validate = .ok c' ↔
      (∃ kind, ResolverKind.parse? c.resolver = some kind) ∧ checkPatterns c.patterns = .ok () ∧
        0 ≤ c.maxDiagnostics ∧
        ∃ extensions, extensions? 0 c.extensions = .ok extensions ∧ c' = { c with extensions } := by
  have known : ¬ (ResolverKind.parse? c.resolver).isNone = true ↔
      ∃ kind, ResolverKind.parse? c.resolver = some kind := by
    rw [Option.isNone_iff_eq_none]
    exact Option.ne_none_iff_exists'
  simp only [validate, refuse_eq_ok_iff, bind_eq_ok_iff, known, Int.not_lt]
  constructor
  · rintro ⟨kind, extensions, made, _, patterns, limit, done⟩
    exact ⟨kind, patterns, limit, extensions, made, (Except.ok.inj done).symm⟩
  · rintro ⟨kind, patterns, limit, extensions, made, rfl⟩
    exact ⟨kind, extensions, made, (), patterns, limit, rfl⟩

/-- The extensions of validated settings are in their usual form. -/
theorem isUsual_of_validate (valid : c.validate = .ok c') : ∀ e ∈ c'.extensions, IsUsual e := by
  obtain ⟨-, -, -, extensions, made, rfl⟩ := validate_eq_ok_iff.1 valid
  exact (isUsual_of_extensions? made).2

/-- **Validated settings are validated without a change.** -/
theorem validate_of_validate (valid : c.validate = .ok c') : c'.validate = .ok c' := by
  obtain ⟨kind, patterns, limit, extensions, made, rfl⟩ := validate_eq_ok_iff.1 valid
  have again := extensions?_of_usual (isUsual_of_extensions? made).2 0
  exact validate_eq_ok_iff.2 ⟨kind, patterns, limit, extensions, again, rfl⟩

/-- Extensions in their usual form are tested for as they stand. -/
theorem hasExtension_eq {es : List Bytes} (some : es ≠ []) (usual : ∀ e ∈ es, IsUsual e)
    (path : Bytes) : hasExtension es path = es.contains (Unicode.lower (Path.extension path)) := by
  have given : es.isEmpty = false := by
    rw [Bool.eq_false_iff, ne_eq, List.isEmpty_iff]
    exact some
  have small : es.map Unicode.lower = es :=
    (List.map_congr_left fun e member => (usual e member).small).trans (List.map_id es)
  rw [hasExtension, given]
  simp only [Bool.false_eq_true, if_false, small]

end Config

/-! ## Resolvers -/

/-- The default patterns are patterns of declarations. -/
theorem defaultPatterns_ok : ∀ p ∈ defaultPatterns, (LineMatcher.ofPattern p).isOk = true := by
  simp only [defaultPatterns, utf8_eq_data]
  decide +kernel

theorem Config.ofPattern_of_check {ps : List Bytes} (checked : Config.checkPatterns ps = .ok ()) :
    ∀ p ∈ ps, (LineMatcher.ofPattern p).isOk = true := by
  induction ps with
  | nil => simp
  | cons p ps ih =>
    rw [Config.checkPatterns] at checked
    split at checked
    next => cases checked
    next m first => exact List.forall_mem_cons.2 ⟨by rw [first]; rfl, ih checked⟩

/-- With patterns that were checked there is a resolver, whatever the choice and the path. -/
theorem Resolver.exists_ofKind {ps : List Bytes} (checked : Config.checkPatterns ps = .ok ())
    (kind : ResolverKind) (path : Bytes) : ∃ resolver, Resolver.ofKind kind path ps = .ok resolver := by
  have right : ∀ p ∈ defaultPatterns ++ ps, (LineMatcher.ofPattern p).isOk = true :=
    List.forall_mem_append.2 ⟨defaultPatterns_ok, Config.ofPattern_of_check checked⟩
  have made : ∀ p ∈ defaultPatterns ++ ps, ∃ m, LineMatcher.ofPattern p = .ok m := by
    intro p member
    have accepted := right p member
    cases read : LineMatcher.ofPattern p with
    | error e =>
      rw [read] at accepted
      cases accepted
    | ok m => exact ⟨m, rfl⟩
  choose! matcher each using made
  rw [Resolver.ofKind, LineMatcher.ofPatterns, mapM_eq_ok_iff.2 ⟨matcher, each, rfl⟩]
  exact ⟨_, rfl⟩

/-! ## Validated settings do not fail later -/

namespace Config

/-- **Settings that were validated settle everything.**  Validating them again changes nothing; there
are options of a run, with their extensions and patterns; there is a resolver for every path; and a
path has one of the extensions of the settings exactly if a directory is listed with it. -/
theorem validate_settles {c c' : Config} (some : c.extensions ≠ []) (valid : c.validate = .ok c') :
    c'.validate = .ok c' ∧
      ∃ options, c'.options? = .some options ∧
        options.extensions = c'.extensions ∧ options.patterns = c.patterns ∧
        (∀ path, ∃ resolver, Resolver.ofKind options.resolver path c.patterns = .ok resolver) ∧
        ∀ path, c'.matchesExtension path = hasExtension options.extensions path := by
  refine ⟨validate_of_validate valid, ?_⟩
  obtain ⟨⟨kind, resolver⟩, patterns, -, extensions, made, rfl⟩ := validate_eq_ok_iff.1 valid
  obtain ⟨length, usual⟩ := isUsual_of_extensions? made
  have some' : extensions ≠ [] := by
    rintro rfl
    exact some (List.eq_nil_of_length_eq_zero length.symm)
  rw [options?, resolver]
  exact ⟨_, rfl, rfl, rfl, Resolver.exists_ofKind patterns kind,
    fun path => (hasExtension_eq some' usual path).symm⟩

/-- Settings with blanks and capital letters, and with a pattern. -/
def loose : Config where
  extensions := [utf8 " TS", utf8 ".tar.Gz\n"]
  resolver := utf8 " Auto "
  patterns := [utf8 "^def (\\w+)"]

/-- What is made of them. -/
def tight : Config := { loose with extensions := [utf8 ".ts", utf8 ".tar.gz"] }

theorem validate_loose : loose.validate = .ok tight := by
  have resolver : ResolverKind.parse? (utf8 " Auto ") = some .auto := by decide +kernel
  have extensions : extensions? 0 [utf8 " TS", utf8 ".tar.Gz\n"] = .ok [utf8 ".ts", utf8 ".tar.gz"] := by
    simp only [utf8_eq_data]
    decide +kernel
  have patterns : checkPatterns [utf8 "^def (\\w+)"] = .ok () := by
    simp only [utf8_eq_data]
    decide +kernel
  exact validate_eq_ok_iff.2 ⟨⟨_, resolver⟩, patterns, Int.le_refl 0, _, extensions, rfl⟩

theorem loose_settles :
    loose.extensions ≠ [] ∧ loose.validate = .ok tight ∧ tight.validate = .ok tight ∧
      ∀ path, tight.matchesExtension path = hasExtension [utf8 ".ts", utf8 ".tar.gz"] path := by
  have given : loose.extensions ≠ [] := by decide
  obtain ⟨again, options, -, same, -, -, agrees⟩ := validate_settles given validate_loose
  rw [same] at agrees
  exact ⟨given, validate_loose, again, agrees⟩

end Config

end Marginalia
