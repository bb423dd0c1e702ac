import Marginalia.Owner.GoParser
import Marginalia.Owner.Pattern
import Marginalia.Path
import Marginalia.Text.Space
import Marginalia.Unicode.CaseFold
import Marginalia.Unicode.LowerCase

/-!
# Resolvers

How the owners of comments are found: from the grammar of Go, from patterns of
declarations, or not at all.  A file of Go that does not follow the grammar is
resolved by patterns instead, and this is reported.
-/

namespace Marginalia

set_option autoImplicit false

/-- The choice of a resolver.  By default it depends on the name of the file, and so it does for a
choice that is not known. -/
inductive ResolverKind where
  | auto
  | go
  | pattern
  | nobody
  | other (text : Bytes)
  deriving DecidableEq, Repr, Inhabited

namespace ResolverKind

/-- The name of a choice. -/
def name : ResolverKind → Bytes
  | .auto => utf8 "auto"
  | .go => utf8 "go"
  | .pattern => utf8 "pattern"
  | .nobody => utf8 "none"
  | .other text => text

/-- The choice with exactly this name. -/
def ofName (text : Bytes) : ResolverKind :=
  if text = utf8 "auto" then .auto
  else if text = utf8 "go" then .go
  else if text = utf8 "pattern" then .pattern
  else if text = utf8 "none" then .nobody
  else .other text

/-- Reads a choice without regard to case and surrounding blanks; an empty text is the default. -/
def parse? (text : Bytes) : Option ResolverKind :=
  match ofName (Unicode.lower (Bytes.trim text)) with
  | .other [] => some .auto
  | .other _ => none
  | k => some k

/-- What is said about a text that is not a choice. -/
def invalidMessage (text : Bytes) : Bytes :=
  utf8 "invalid resolver " ++ quoted text ++ utf8 " (expected auto|go|pattern|none)"

end ResolverKind

/-- A way to find the owners of comments. -/
inductive Resolver where
  | go (fallback : List LineMatcher)
  | pattern (matchers : List LineMatcher)
  | nobody

/-- Do two texts differ at most in the case of their letters? -/
def Bytes.equalFold (s t : Bytes) : Bool :=
  (Utf8.chars s).map (fun c => Unicode.foldKey c.toNat)
    == (Utf8.chars t).map (fun c => Unicode.foldKey c.toNat)

namespace Resolver

/-- The resolver of a choice for a file.  Patterns have to be right even where they are not used. -/
def ofKind (kind : ResolverKind) (path : Bytes) (patterns : List Bytes) :
    Except PatternError Resolver :=
  (LineMatcher.ofPatterns patterns).map fun matchers =>
    match kind with
    | .nobody => .nobody
    | .go => .go matchers
    | .pattern => .pattern matchers
    | .auto | .other _ =>
      if Bytes.equalFold (Path.extension path) (utf8 ".go") then .go matchers else .pattern matchers

/-- Gives the comments of a scan their owners; the second result tells that the text should have been
a file of Go and is not. -/
def resolve (resolver : Resolver) (content : Bytes) (scan : Scan) : Scan × Bool :=
  match resolver with
  | .nobody => (scan, false)
  | .pattern matchers => (scan.owned (scan.regionsByLine matchers content), false)
  | .go matchers =>
    match Outline.ofText? content with
    | some decls => (scan.owned (Outline.regions decls), false)
    | none => (scan.owned (scan.regionsByLine matchers content), true)

/-- How it begins what is said about a text that should have been a file of Go. -/
def notGoMessage : Bytes := utf8 "go resolver"

/-- What is said about a text that should have been a file of Go: what its parser says. -/
def notGo [GoParser] (path content : Bytes) : Bytes :=
  notGoMessage ++ utf8 ": " ++ GoMistake.report (GoParser.mistakes path content)

/-- What is said names the file, whatever is wrong with it. -/
theorem prefix_notGo [GoParser] {path content : Bytes} (named : path ≠ [])
    (unread : Outline.ofText? content = none) (plain : ¬ HasLineDirective content) :
    notGoMessage ++ utf8 ": " ++ (path ++ utf8 ":") <+: notGo path content :=
  (List.prefix_append_right_inj _).2 <|
    GoMistake.prefix_report named (GoParser.mistakes_ne_nil path content unread)
      (GoParser.file_of_mistake path content plain)

end Resolver

end Marginalia
