import Marginalia.Extraction.Basic
import Marginalia.Extraction.Files

/-!
# Configuration

The settings of a project.  Extensions are kept in small letters and with their dot;
checking a configuration brings them into this form.
-/

namespace Marginalia

set_option autoImplicit false

/-- The settings of a project. -/
structure Config where
  extensions : List Bytes := []
  normalize : Bool := false
  resolver : Bytes := []
  patterns : List Bytes := []
  maxDiagnostics : Int := 0
  ignoreInfo : Bool := false
  warningsAsErrors : Bool := false
  cacheEnabled : Bool := false
  cacheDir : Bytes := []
  /-- the file that the settings come from, if any -/
  path : Bytes := []
  deriving DecidableEq, Repr, Inhabited

namespace Config

/-- The settings of a project that says nothing. -/
def standard : Config where
  extensions := defaultExtensions
  normalize := true
  resolver := utf8 "auto"
  maxDiagnostics := 100

/-- Why settings are not right. -/
inductive Fault where
  | resolver (text : Bytes)
  | emptyExtension (index : Nat)
  | pattern (error : PatternError)
  | maximum (n : Int)
  deriving DecidableEq, Repr, Inhabited

/-- The words for it. -/
def Fault.message : Fault → Bytes
  | .resolver text =>
    utf8 "[scan].resolver: invalid value " ++ quoted text ++ utf8 " (expected auto|go|pattern|none)"
  | .emptyExtension i => utf8 "[scan].extensions: empty entry at index " ++ Decimal.nat i
  | .pattern (.invalid _ e) => utf8 "[scan].owner_patterns: " ++ e.message
  | .pattern (.noGroup source) =>
    utf8 "[scan].owner_patterns: " ++ quoted source ++ utf8 " needs a capture group"
  | .maximum n => utf8 "[diagnostics].max must be >= 0, got " ++ Decimal.int n

/-- An extension in small letters and with its dot, unless it is empty. -/
def extension? (text : Bytes) : Option Bytes :=
  let e := Unicode.lower (Bytes.trim text)
  if e = [] || e = utf8 "." then none
  else if Bytes.startsWith (utf8 ".") e then some e
  else some (utf8 "." ++ e)

/-- Extensions in their usual form; `index` is the place of the first of them. -/
def extensions? : (index : Nat) → List Bytes → Except Fault (List Bytes)
  | _, [] => .ok []
  | index, e :: es =>
    match extension? e with
    | none => .error (.emptyExtension index)
    | some e => (extensions? (index + 1) es).map (e :: ·)

/-- Checks patterns and tells about the first that is not right. -/
def checkPatterns : List Bytes → Except Fault Unit
  | [] => .ok ()
  | p :: ps =>
    match LineMatcher.ofPattern p with
    | .error e => .error (.pattern e)
    | .ok _ => checkPatterns ps

/-- Checks settings and brings extensions into their usual form. -/
def validate (c : Config) : Except Fault Config := do
  if (ResolverKind.parse? c.resolver).isNone then throw (.resolver c.resolver)
  let extensions ← extensions? 0 c.extensions
  checkPatterns c.patterns
  if c.maxDiagnostics < 0 then throw (.maximum c.maxDiagnostics)
  return { c with extensions }

/-- Does a path have one of the extensions? -/
def matchesExtension (c : Config) (path : Bytes) : Bool :=
  c.extensions.contains (Unicode.lower (Path.extension path))

/-- What an extraction is asked to do under these settings. -/
def options? (c : Config) : Option Options :=
  (ResolverKind.parse? c.resolver).map fun resolver =>
    { normalize := c.normalize
      resolver
      patterns := c.patterns
      extensions := c.extensions
      maxDiagnostics := c.maxDiagnostics
      ignoreInfo := c.ignoreInfo
      warningsAsErrors := c.warningsAsErrors }

end Config

end Marginalia
