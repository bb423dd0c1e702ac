import Marginalia.Json.Basic
import Marginalia.Output.Style
import Marginalia.Text.Space

/-!
# Build information

What is known about the build of the program, and how it is shown.
-/

namespace Marginalia

set_option autoImplicit false

/-- What is known about a build. -/
structure Build where
  version : Bytes := utf8 "0.1.0-dev"
  commit : Bytes := []
  message : Bytes := []
  date : Bytes := []
  /-- the version of the tools that built it -/
  toolchain : Bytes := []
  deriving DecidableEq, Repr, Inhabited

/-- What is shown of it, besides the version. -/
structure BuildDetails where
  commit : Bool := false
  message : Bool := false
  date : Bool := false
  deriving DecidableEq, Repr, Inhabited

namespace Build

/-- The version with its three numbers in colors; what follows them stays plain.  Anything else stays
as it is. -/
def colored (on : Bool) (version : Bytes) : Bytes :=
  let core := version.takeWhile fun b => b ≠ 45 && b ≠ 43
  match Bytes.splitAtByte Bytes.dot core with
  | [major, minor, patch] =>
    Style.yellowBold.paint on major ++ utf8 "." ++ Style.greenBold.paint on minor ++ utf8 "."
      ++ Style.blueBold.paint on patch ++ version.drop core.length
  | _ => version

/-- Without blanks around, and with a version. -/
def tidy (b : Build) : Build where
  version := match Bytes.trim b.version with
    | [] => utf8 "dev"
    | v => v
  commit := Bytes.trim b.commit
  message := Bytes.trim b.message
  date := Bytes.trim b.date
  toolchain := b.toolchain

/-- A text, or a word for one that is missing. -/
def orUnknown (s : Bytes) : Bytes := if s.isEmpty then utf8 "unknown" else s

/-- The build for a reader. -/
def pretty (b : Build) (details : BuildDetails) (color : Bool) : Bytes :=
  let line (on : Bool) (label : String) (s : Bytes) : Bytes :=
    if on then utf8 label ++ orUnknown s ++ utf8 "\n" else []
  utf8 "docmark " ++ colored color b.version ++ utf8 " (" ++ b.toolchain ++ utf8 ")\n"
    ++ line details.commit "commit:  " b.commit
    ++ line details.message "message: " b.message
    ++ line details.date "built:   " b.date

/-- The build for a program. -/
def document (b : Build) (details : BuildDetails) : Bytes :=
  let member (on : Bool) (s : Bytes) : Option Json := if on then some (.str (orUnknown s)) else none
  (Json.ofMembers
    [("tool", some (.text "docmark")), ("version", some (.str b.version)),
     ("go_version", some (.str b.toolchain)), ("git_commit", member details.commit b.commit),
     ("git_message", member details.message b.message),
     ("build_date", member details.date b.date)]).document

end Build

end Marginalia
