import Marginalia.Owner.Decl
import Marginalia.Regex.Match
import Marginalia.Text.Quoted

/-!
# Patterns of declarations

The lines that declare a function in the common languages with curly braces, as
regular expressions whose first group is the name; more can be given.
-/

namespace Marginalia

set_option autoImplicit false

/-- Patterns that are always tried, in this order: two for functions and arrow functions of scripts,
one for `fn`, one for `func`, and one for definitions at the top level that start with a type. -/
def defaultPatterns : List Bytes :=
  [utf8 "^\\s*(?:export\\s+)?(?:default\\s+)?(?:async\\s+)?function\\s*\\*?\\s*([A-Za-z_$][\\w$]*)",
   utf8 "^\\s*(?:export\\s+)?(?:const|let|var)\\s+([A-Za-z_$][\\w$]*)\\s*(?::[^=]+)?=\\s*(?:async\\s+)?(?:\\([^)]*\\)|[A-Za-z_$][\\w$]*)\\s*(?::[^=]+)?=>",
   utf8 "^\\s*(?:pub(?:\\([^)]*\\))?\\s+)?(?:const\\s+)?(?:async\\s+)?(?:unsafe\\s+)?(?:extern\\s+\"[^\"]*\"\\s+)?fn\\s+([A-Za-z_]\\w*)",
   utf8 "^func\\s+(?:\\([^)]*\\)\\s*)?([A-Za-z_]\\w*)",
   utf8 "^(?:(?:static|inline|extern|const|unsigned|signed)\\s+)*[A-Za-z_][\\w:<>]*(?:\\s*\\*+\\s*|\\s+)\\*?([A-Za-z_]\\w*)\\s*\\([^;]*$"]

/-- Why a text is not a pattern of declarations. -/
inductive PatternError where
  | invalid (source : Bytes) (error : Regex.Error)
  | noGroup (source : Bytes)
  deriving DecidableEq, Repr, Inhabited

/-- The words for an error. -/
def PatternError.message : PatternError → Bytes
  | .invalid source error => utf8 "owner pattern " ++ quoted source ++ utf8 ": " ++ error.message
  | .noGroup source =>
    utf8 "owner pattern " ++ quoted source ++ utf8 ": needs a capture group for the name"

/-- The matcher of a pattern. -/
def LineMatcher.ofPattern (source : Bytes) : Except PatternError LineMatcher :=
  match Regex.compile source with
  | .error e => .error (.invalid source e)
  | .ok re => if re.groups = 0 then .error (.noGroup source) else .ok re.firstGroup?

/-- The matchers of the default patterns and of more patterns. -/
def LineMatcher.ofPatterns (more : List Bytes) : Except PatternError (List LineMatcher) :=
  (defaultPatterns ++ more).mapM LineMatcher.ofPattern

/-- The regions of the declarations that the matchers find. -/
def Scan.regionsByLine (scan : Scan) (matchers : List LineMatcher) (content : Bytes) : List Region :=
  Decl.regions scan (Decl.find matchers content scan.comments)

end Marginalia
