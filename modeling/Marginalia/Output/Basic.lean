import Marginalia.Diagnostic.Listing
import Marginalia.Extraction.Basic
import Marginalia.Source.FileSet

/-!
# Output

What printing results needs to know besides them: the files they come from, if
these are at hand, and the working directory, which paths are shown relative to.
-/

namespace Marginalia

set_option autoImplicit false

/-- The files that results come from, and the working directory. -/
structure Scene where
  files : Option FileSet := none
  cwd : Bytes := []
  deriving Repr, Inhabited

namespace Scene

/-- A path as it is shown. -/
def display (s : Scene) (style : PathStyle) (path : Bytes) : Bytes :=
  match s.files with
  | some files => files.display s.cwd style path
  | none => path

/-- The file with a path. -/
def file? (s : Scene) (path : Bytes) : Option SourceFile := s.files.bind (·.byPath? path)

end Scene

/-- One line for each diagnostic, sorted by path, line and column. -/
def printShort (scene : Scene) (style : PathStyle) (results : List FileResult) : Bytes :=
  match Listing.render (results.flatMap fun r =>
      r.diagnostics.map fun d => ⟨scene.display style r.path, d⟩) with
  | [] => []
  | text => text ++ utf8 "\n"

end Marginalia
