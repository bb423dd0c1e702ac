import Marginalia.Build
import Marginalia.Cache.Disk
import Marginalia.CommandLine.Plan
import Marginalia.Json.Comments
import Marginalia.Json.Record
import Marginalia.Output.Document
import Marginalia.Output.Fragments
import Marginalia.Output.Pretty
import Marginalia.Output.Sarif
import Marginalia.Output.Stream

/-!
# Running commands

From the arguments of the program and the world around it to what it prints, its
exit status and the disk that it leaves behind.
-/

namespace Marginalia.CommandLine

set_option autoImplicit false

/-- What comes of a command. -/
structure Reply where
  failed : Bool := false
  stdout : Bytes := []
  stderr : Bytes := []
  disk : Disk := {}

/-- A command that does not do its work. -/
def Refusal.reply (disk : Disk) (r : Refusal) : Reply :=
  { failed := true, stderr := utf8 "Error: " ++ r.message ++ utf8 "\n", disk }

/-! ## Looking at files -/

/-- Files, results and the disk afterwards. -/
structure Found where
  files : FileSet
  results : List FileResult
  disk : Disk

/-- Carries a plan out. -/
def Plan.run [GoParser] (p : Plan) (disk : Disk) : Except Refusal Found := do
  let opened := p.cacheDir.bind fun dir => (Cache.openIn disk dir).map fun r => (dir, r.1, r.2)
  let disk := (opened.map fun r => r.2.1).getD disk
  let cache := opened.map fun r => r.2.2
  let save (cache : Option Cache) : Disk :=
    match opened, cache with
    | some (dir, _, _), some cache => cache.saveIn disk dir
    | _, _ => disk
  if p.isDir then
    let out ← (p.options.extractDirectory false cache disk p.target).mapError .extract
    return { files := out.files, results := out.results, disk := save out.cache }
  else
    let (files, out) ← (p.options.extractPath false cache disk p.target).mapError .extract
    return { files, results := [out.result], disk := save out.cache }

/-- The table of timings, if it was asked for. -/
def timings (p : Plan) (results : List FileResult) : Bytes :=
  if p.options.timings then (Timing.merge (results.filterMap FileResult.timing)).summary else []

/-- A line that counts files and diagnostics. -/
def countsLine (results : List FileResult) : Bytes :=
  let readable := results.filter fun r => r.error.isNone
  let count (s : Severity) : Bytes :=
    Decimal.nat (readable.foldl (fun n r => n + (r.bag.map fun b => b.count s).getD 0) 0)
  let unreadable := results.length - readable.length
  Decimal.nat results.length ++ utf8 " files: " ++ count .error ++ utf8 " errors, " ++ count .warn
    ++ utf8 " warnings, " ++ count .info ++ utf8 " infos"
    ++ (if unreadable = 0 then [] else utf8 ", " ++ Decimal.nat unreadable ++ utf8 " unreadable")
    ++ utf8 "\n"

/-- The format that was asked for, if it is one of the given ones. -/
def formatOf (g : Given) (usual : String) (formats : List String) : Except Refusal Bytes :=
  let format := (g.text? "format").getD (utf8 usual)
  if (formats.map utf8).contains format then .ok format else .error (.unknownFormat format)

/-- The style of paths that was asked for. -/
def pathStyleOf (g : Given) : Except Refusal PathStyle :=
  let text := (g.text? "path-mode").getD (utf8 "auto")
  match PathStyle.parse? text with
  | some style => .ok style
  | none => .error (.pathStyle text)

def runDiag [GoParser] (w : World) (g : Given) (arguments : List Bytes) (target : Bytes) :
    Except Refusal Reply := do
  let format ← formatOf g "pretty" ["pretty", "short", "json", "sarif"]
  let style ← pathStyleOf g
  let p ← planOf w g target
  let found ← p.run w.disk
  let scene : Scene := { files := some found.files, cwd := w.disk.cwd }
  let pretty := format = utf8 "pretty"
  let stdout :=
    if pretty then
      printPretty
        { color := p.color, context := (g.int? "context").getD 1, style,
          suggest := (g.bool? "suggest").getD true } scene found.results
    else if format = utf8 "short" then printShort scene style found.results
    else if format = utf8 "json" then printDocument { style } scene found.results
    else printSarif
      { toolName := utf8 "docmark", toolVersion := ({} : Build).version,
        arguments := utf8 "docmark" :: arguments } scene found.results
  return {
    failed := found.results.any FileResult.failed
    stdout
    stderr := (if pretty && !p.quiet then countsLine found.results else []) ++ timings p found.results
    disk := found.disk }

/-- Shows descriptions, examples and notes. -/
def runExtract [GoParser] (w : World) (g : Given) (target : Bytes) : Except Refusal Reply := do
  let format ← formatOf g "text" ["text", "json", "msgpack"]
  let comments := (g.bool? "comments").getD false
  let style ← pathStyleOf g
  -- the flags about diagnostics are unknown to this command, so that they are never given
  let p ← planOf w g target
  let found ← p.run w.disk
  let scene : Scene := { files := some found.files, cwd := w.disk.cwd }
  let stdout :=
    if format = utf8 "text" then
      printFragments { style, color := p.color, width := (g.int? "width").getD 0 } scene found.results
    else if format = utf8 "json" then
      printDocument { style, fragments := true, comments } scene found.results
    else writeStream { style, comments } scene found.results
  return {
    failed := found.results.any fun r => r.error.isSome
    stdout
    stderr := timings p found.results
    disk := found.disk }

/-! ## Other commands -/

/-- The text of comments: the standard input, or a file. -/
def commentsText (w : World) (target : Bytes) : Except Refusal Bytes :=
  if target = utf8 "-" then .ok w.stdin
  else
    match w.disk.read target with
    | .ok text => .ok text
    -- A directory can be opened, and what is read of it is then no text.
    | .error e => .error (if e.cause = .isDirectory then .undecodable else .comments e)

/-- Makes notes from comments. -/
def runFold (w : World) (g : Given) (target : Bytes) : Except Refusal Reply := do
  let text ← commentsText w target
  let some comments := commentsOfText text | throw .undecodable
  let notes := Notes.ofComments comments
  return {
    failed := (g.bool? "strict").getD false &&
      notes.diagnostics.any fun d => Severity.warn.rank ≤ d.severity.rank
    stdout := notes.toJson.document
    disk := w.disk }

def runVersion (w : World) (g : Given) : Except Refusal Reply := do
  let format := (g.text? "format").getD (utf8 "pretty")
  let full := (g.bool? "full").getD false
  let color ← colorOf w g
  let details : BuildDetails :=
    { commit := (g.bool? "hash").getD false || full
      message := (g.bool? "message").getD false || full
      date := (g.bool? "date").getD false || full }
  let build : Build := { ({} : Build).tidy with toolchain := w.toolchain }
  if Unicode.lower format = utf8 "json" then return { stdout := build.document details, disk := w.disk }
  else if Unicode.lower format = utf8 "pretty" then
    return { stdout := build.pretty details color, disk := w.disk }
  else throw (.unsupportedFormat format)

/-- A few words about the program. -/
def about : Bytes :=
  utf8 "docmark reads //++ descriptions, //?? examples and //-- tech-debt notes\n"
    ++ utf8 "(and their /*++ */ block forms) from source comments and reports marker\ndiagnostics.\n"

/-! ## The program -/

/-- Creates the files of profiles. -/
def startProfiles (disk : Disk) (g : Given) : Except Refusal Disk := do
  let create (what name : String) (disk : Disk) : Except Refusal Disk :=
    match (g.text? name).getD [] with
    | [] => .ok disk
    | path => (disk.write path []).mapError (.profile what)
  create "runtime trace" "runtime-trace" (← create "cpu profile" "cpu-profile" disk)

/-- The only argument, where there has to be exactly one. -/
def onlyArgument (g : Given) : Except Refusal Bytes :=
  match g.arguments with
  | [target] => .ok target
  | arguments => .error (.argumentCount arguments.length)

/-- Runs a command with the flags and arguments that were given. -/
def runCommand [GoParser] (w : World) (arguments : List Bytes) (c : Command) (g : Given) :
    Except Refusal Reply := do
  let info (stdout : Bytes) : Reply := { stdout, disk := w.disk }
  if (g.bool? "help").getD false then return info about
  match c with
  | .top =>
    if (g.bool? "version").getD false then
      return info (utf8 "docmark version " ++ ({} : Build).version ++ utf8 "\n")
    else return info about
  | .help | .completion => return info about
  | .version =>
    let disk ← startProfiles w.disk g
    runVersion { w with disk } g
  | .diag =>
    let target ← onlyArgument g
    let disk ← startProfiles w.disk g
    runDiag { w with disk } g arguments target
  | .extract =>
    let target ← onlyArgument g
    let disk ← startProfiles w.disk g
    runExtract { w with disk } g target
  | .fold =>
    let target ← onlyArgument g
    let disk ← startProfiles w.disk g
    runFold { w with disk } g target

/-- The command that arguments name and what was given to it, if they can be read. -/
def given? (arguments : List Bytes) : Option (Command × Given) :=
  match findCommand arguments with
  | .error _ => none
  | .ok (c, rest) => (read c.flags {} rest).toOption.map fun g => (c, g)

/-- The paths that arguments name: those that are looked at, and those of files to read. -/
def pathsOf (arguments : List Bytes) : List Bytes :=
  match given? arguments with
  | none => []
  | some (_, g) => g.arguments ++ (g.text? "config").toList

/-- The directory of the cache that a run is going to use. -/
def cacheDirOf (w : World) (arguments : List Bytes) : Option Bytes := do
  let (_, g) ← given? arguments
  let target ← (onlyArgument g).toOption
  let plan ← (planOf w g target).toOption
  plan.cacheDir

def run [GoParser] (w : World) (arguments : List Bytes) : Reply :=
  match findCommand arguments with
  | .error message =>
    { failed := true
      stderr := utf8 "Error: " ++ message ++ utf8 "\nRun 'docmark --help' for usage.\n"
      disk := w.disk }
  | .ok (c, rest) =>
    match ((read c.flags {} rest).mapError Refusal.flag).bind (runCommand w arguments c) with
    | .ok reply => reply
    | .error r => r.reply w.disk

end Marginalia.CommandLine
