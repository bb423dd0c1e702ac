import Marginalia.CommandLine.Command
import Marginalia.Config.File
import Marginalia.Extraction.Directory
import Marginalia.Progress.Basic

/-!
# The plan of a run

What a command that looks at files is going to do: the settings of the project,
overridden by the flags that were given.
-/

namespace Marginalia.CommandLine

set_option autoImplicit false

/-- Why a command does not do its work. -/
inductive Refusal where
  | flag (error : FlagError)
  | argumentCount (given : Nat)
  | unknownFormat (text : Bytes)
  | unsupportedFormat (text : Bytes)
  | pathStyle (text : Bytes)
  | target (error : DiskError)
  | config (failure : Config.Failure)
  | negativeMaximum
  | resolver (text : Bytes)
  | color (text : Bytes)
  | progress (text : Bytes)
  | extract (error : ExtractError)
  | profile (what : String) (error : DiskError)
  | comments (error : DiskError)
  | undecodable

/-- The words for it. -/
def Refusal.message : Refusal → Bytes
  | .flag e => e.message
  | .argumentCount n => utf8 "accepts 1 arg(s), received " ++ Decimal.nat n
  | .unknownFormat text => utf8 "unknown format: " ++ text
  | .unsupportedFormat text =>
    utf8 "unsupported format " ++ quoted text ++ utf8 " (must be pretty or json)"
  | .pathStyle text => PathStyle.invalidMessage text
  | .target e => utf8 "failed to stat path: " ++ e.message
  | .config e => e.message
  | .negativeMaximum => utf8 "--max-diagnostics must be >= 0"
  | .resolver text => ResolverKind.invalidMessage text
  | .color text => utf8 "invalid --color value " ++ quoted text ++ utf8 " (expected auto|on|off)"
  | .progress text => ProgressMode.invalidMessage text
  | .extract e => e.message
  | .profile what e =>
    utf8 "failed to start profiling: " ++ utf8 what ++ utf8 ": " ++ e.message
  | .comments e => utf8 "failed to open comments: " ++ e.message
  | .undecodable => utf8 "failed to decode comments"

/-- What a command finds around it. -/
structure World where
  disk : Disk := {}
  stdin : Bytes := []
  /-- the directory for caches -/
  cacheHome : Bytes := []
  /-- is the output a terminal? -/
  terminal : Bool := false
  toolchain : Bytes := []

/-! ## Overriding settings -/

/-- The flags that stand for settings, as far as they were given. -/
structure Overrides where
  maxDiagnostics : Option Int := none
  resolver : Option Bytes := none
  cache : Option Bool := none
  noInfo : Option Bool := none
  warningsAsErrors : Option Bool := none
  deriving DecidableEq, Repr, Inhabited

namespace Overrides

/-- The flags among those that were given. -/
def ofGiven (g : Given) : Overrides where
  maxDiagnostics := g.int? "max-diagnostics"
  resolver := g.text? "resolver"
  cache := g.bool? "cache"
  noInfo := g.bool? "no-info"
  warningsAsErrors := g.bool? "warnings-as-errors"

/-- The settings with the flags that every command over files knows. -/
def config (o : Overrides) (c : Config) : Config :=
  { c with
    maxDiagnostics := o.maxDiagnostics.getD c.maxDiagnostics
    resolver := o.resolver.getD c.resolver
    cacheEnabled := o.cache.getD c.cacheEnabled }

/-- The options with the flags that only tell about diagnostics.  They can switch a setting on, not
off. -/
def options (o : Overrides) (options : Options) : Options :=
  { options with
    ignoreInfo := o.noInfo.getD false || options.ignoreInfo
    warningsAsErrors := o.warningsAsErrors.getD false || options.warningsAsErrors }

end Overrides

/-! ## Plans -/

/-- What a command over files is going to do. -/
structure Plan where
  target : Bytes
  isDir : Bool
  options : Options
  color : Bool
  quiet : Bool
  /-- where the cache is kept, if there is to be one -/
  cacheDir : Option Bytes

/-- Are colors on? -/
def colorOf (w : World) (g : Given) : Except Refusal Bool :=
  let text := (g.text? "color").getD (utf8 "auto")
  if text = utf8 "on" then .ok true
  else if text = utf8 "off" then .ok false
  else if text = utf8 "auto" || text.isEmpty then .ok w.terminal
  else .error (.color text)

/-- The settings that hold for a target. -/
def configOf (w : World) (g : Given) (target : Bytes) : Except Refusal Config :=
  let path := (g.text? "config").getD []
  (if path.isEmpty then Config.discover w.disk target else Config.load w.disk path).mapError .config

/-- The plan for a target. -/
def planOf (w : World) (g : Given) (target : Bytes) : Except Refusal Plan := do
  let entry ← (w.disk.stat target).mapError .target
  let overrides := Overrides.ofGiven g
  let found ← configOf w g target
  if overrides.maxDiagnostics.any (· < 0) then throw .negativeMaximum
  let config := overrides.config found
  let some options := config.options? | throw (.resolver config.resolver)
  let color ← colorOf w g
  let mode := (g.text? "ui").getD (utf8 "auto")
  if (ProgressMode.parse? mode).isNone then throw (.progress mode)
  return {
    target
    isDir := entry.isDir
    options := overrides.options
      { options with jobs := (g.int? "jobs").getD 0, timings := (g.bool? "timings").getD false }
    color
    quiet := (g.bool? "quiet").getD false
    cacheDir :=
      if !config.cacheEnabled then none
      else if config.cacheDir.isEmpty then some (Path.join [w.cacheHome, utf8 "docmark"])
      else some config.cacheDir }

end Marginalia.CommandLine
