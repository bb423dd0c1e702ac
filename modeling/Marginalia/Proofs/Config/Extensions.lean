import Marginalia.Proofs.Config.Validated
import Marginalia.Proofs.Extraction.Selection

/-!
# Extensions that match

Whether a file has one of the extensions of the settings is told by what follows the
last dot of its name.  An extension that was validated may have more than one dot, or
a slash, and then it is not what follows the last dot.  A file whose name ends in such
an extension is taken only if the end of the extension is one of the extensions, too
(`matchesExtension_append_iff`), and the same holds for the listing of its directory.
-/

namespace Marginalia.Config

set_option autoImplicit false

open Bytes (slash dot)
open Marginalia.Disk (Named)
open Marginalia.Path (IsName)

variable {c c' : Config} {e b : Bytes}

/-- The extension of a text in lower case is in lower case. -/
theorem lower_extension (small : Unicode.lower e = e) :
    Unicode.lower (Path.extension e) = Path.extension e := by
  rcases Path.extension_suffix e with none | ⟨before, rest, split, found, -⟩
  · rw [none, Unicode.lower_nil]
  · rw [found]
    rw [split] at small
    exact Unicode.lower_of_lower_append (c := '.') small

/-- The extension of a name that ends in an extension of usual form is that of its end. -/
theorem lower_extension_append (usual : IsUsual e) (noSlash : slash ∉ b) :
    Unicode.lower (Path.extension (b ++ e)) = Path.extension e := by
  have small := lower_extension usual.small
  obtain ⟨rest, -, rfl⟩ := usual.dotted
  rw [Path.extension_append_dotted noSlash, small]

theorem named_append_iff {es : List Bytes} (usual : ∀ e ∈ es, IsUsual e) (member : e ∈ es)
    (noSlash : slash ∉ b) : Named es (b ++ e) ↔ Path.extension e ∈ es := by
  rw [← Disk.hasExtension_iff, hasExtension_eq (List.ne_nil_of_mem member) usual,
    lower_extension_append (usual e member) noSlash, List.contains_iff_mem]

/-- **When files with an accepted extension are taken.** -/
theorem matchesExtension_append_iff (valid : c.validate = .ok c') (member : e ∈ c'.extensions)
    (noSlash : slash ∉ b) :
    (c'.matchesExtension (b ++ e) = true ↔ Path.extension e ∈ c'.extensions) ∧
    (∀ (d : Disk) (dir : Bytes) (place : Place) (content : Bytes), d.IsFileTree →
      d.find false dir = .ok (place, .dir) → d.Readable dir →
      d.at? (place ++ [b ++ e]) = some (.file content) →
      ∃ paths, d.listFiles dir c'.extensions = .ok paths ∧
        (Path.join [dir, b ++ e] ∈ paths ↔ Path.extension e ∈ c'.extensions)) ∧
    ∃ rest, e = dot :: rest ∧ (Path.extension e = e ↔ dot ∉ rest ∧ slash ∉ rest) := by
  have usual := isUsual_of_validate valid
  refine ⟨?_, fun d dir place content tree found readable stands => ?_, ?_⟩
  · rw [matchesExtension, lower_extension_append (usual e member) noSlash, List.contains_iff_mem]
  · obtain ⟨paths, listed, exactly⟩ := tree.exists_listFiles found readable c'.extensions
    have nonempty := Disk.ne_nil_of_find found
    refine ⟨paths, listed, ?_⟩
    rw [exactly, ← named_append_iff usual member noSlash]
    constructor
    · rintro ⟨above, name, same, reaches, named⟩
      have isName : ∀ a ∈ [b ++ e], IsName a := fun a inside =>
        tree.names _ (Disk.mem_of_at? (by simp) stands) a (List.mem_append_right _ inside)
      have names := Path.join_cons_inj nonempty isName (List.cons_ne_nil _ _)
        (reaches.isName tree.toIsTree) (by simp) same
      have last : b ++ e = name := by
        have lasts := congrArg List.getLast? names
        simpa using lasts
      rwa [last]
    · intro named
      have read : d.list dir = .ok (d.children place) := by rw [Disk.list, Disk.find_follow found]
      have reaches : d.Reaches dir [] (b ++ e) := Disk.reaches_nil_iff.2
        ⟨_, .file content, read, tree.mem_children_iff.2 stands, by simp⟩
      exact ⟨[], b ++ e, rfl, reaches, named⟩
  · obtain ⟨rest, -, rfl⟩ := (usual e member).dotted
    exact ⟨rest, rfl, Path.extension_eq_self_iff⟩

/-- A directory with one file. -/
def tarball : Disk where
  entries := [([utf8 "a.tar.gz"], .file [])]

theorem isFileTree_tarball : tarball.IsFileTree where
  distinct := by decide
  names := by decide
  parents := by decide

theorem find_tarball : tarball.find false (utf8 "/") = .ok ([], .dir) := by
  have start : tarball.start (utf8 "/") = .ok ([[], []], []) := by decide
  simp [Disk.find, start, Disk.walk, Disk.at?]

theorem readable_tarball : tarball.Readable (utf8 "/") := by
  have read : tarball.list (utf8 "/") = .ok (tarball.children []) := by
    rw [Disk.list, Disk.find_follow find_tarball]
  have children : tarball.children [] = [(utf8 "a.tar.gz", .file [])] := by
    rw [Disk.children, List.mergeSort_of_pairwise (by decide)]
    decide
  exact Disk.readable_iff.2 ⟨_, read, by simp [children]⟩

/-- A file with an extension that was accepted, and neither taken nor listed. -/
theorem tarball_untaken :
    loose.validate = .ok tight ∧ utf8 ".tar.gz" ∈ tight.extensions ∧ slash ∉ utf8 "a" ∧
    tight.matchesExtension (utf8 "a" ++ utf8 ".tar.gz") ≠ true ∧
    ∃ paths, tarball.listFiles (utf8 "/") tight.extensions = .ok paths ∧
      Path.join [utf8 "/", utf8 "a" ++ utf8 ".tar.gz"] ∉ paths := by
  have member : utf8 ".tar.gz" ∈ tight.extensions := by decide
  have noSlash : slash ∉ utf8 "a" := by decide
  have other : Path.extension (utf8 ".tar.gz") ∉ tight.extensions := by decide
  obtain ⟨taken, listed, -⟩ := matchesExtension_append_iff validate_loose member noSlash
  obtain ⟨paths, listing, listed⟩ := listed tarball (utf8 "/") [] [] isFileTree_tarball find_tarball
    readable_tarball (by decide)
  exact ⟨validate_loose, member, noSlash, fun yes => other (taken.1 yes), paths, listing,
    fun inside => other (listed.1 inside)⟩

end Marginalia.Config
