import Marginalia.Cache.Basic
import Marginalia.Notes.Fold
import Marginalia.Source.FileSet

/-!
# Extraction from one text

Scans a text, finds the owners of its comments and makes the notes.  With a cache,
what was found out before is taken from it, and what is found out now is kept.
Patterns that are not right leave all comments without an owner and are reported;
the extraction goes on.
-/

namespace Marginalia

set_option autoImplicit false

/-- Comments with owners, and the reason if the owners could not be found in the best way. -/
def Options.resolve [GoParser] (o : Options) (path content : Bytes) (scan : Scan) :
    List Comment × Option Bytes :=
  match Resolver.ofKind o.resolver path o.patterns with
  | .error e => (scan.comments, some e.message)
  | .ok resolver =>
    let (scan, failed) := resolver.resolve content scan
    (scan.comments, if failed then some (Resolver.notGo path content) else none)

/-- What is found out about a file without looking at what to report. -/
def Options.examine [GoParser] (o : Options) (file : SourceFile) : Payload :=
  let scan := Scan.ofText o.normalize file.content
  let resolved := o.resolve file.path file.content scan
  { path := file.path
    comments := resolved.1
    notes := Notes.ofComments resolved.1
    scanDiagnostics := scan.diagnostics
    resolverError := resolved.2.getD [] }

/-- The result for a file, from what was found out about it. -/
def Options.report (o : Options) (file : SourceFile) (cached : Bool) (timing : List Phase)
    (p : Payload) : FileResult where
  path := file.path
  fileId := file.id
  comments := p.comments
  notes := p.notes
  folded := true
  bag := some (o.bag p.scanDiagnostics p.notes.diagnostics)
  resolverError := if p.resolverError.isEmpty then none else some p.resolverError
  cached := cached
  timing := if o.timings then some { phases := timing } else none

/-- The outcome of an extraction: the result, what was told, and the cache afterwards. -/
structure Outcome where
  result : FileResult
  events : List Event
  cache : Option Cache
  deriving Inhabited

/-- Works on a file that was read; events carry the given name. -/
def Options.extractFile [GoParser] (o : Options) (cache : Option Cache) (name : Bytes)
    (file : SourceFile) : Outcome :=
  let key := CacheKey.of file.path file.hash o
  let looked : List Phase := if cache.isSome then [{ name := utf8 "cache_get" }] else []
  match cache.bind (·.get? key) with
  | some p =>
    { result := o.report file true looked p
      events := [⟨name, .classify, .done, none⟩]
      cache := cache }
  | none =>
    let p := o.examine file
    let phases := looked ++
      [{ name := utf8 "scan", note := utf8 "comments=" ++ Decimal.nat p.comments.length },
       { name := utf8 "resolve" },
       { name := utf8 "fold", note := utf8 "diags=" ++ Decimal.nat p.notes.diagnostics.length }]
    { result := o.report file false phases p
      events := [⟨name, .scan, .working, none⟩, ⟨name, .classify, .working, none⟩,
        ⟨name, .classify, .done, none⟩]
      cache := cache.map (·.put key p) }

/-- Why an extraction gives nothing. -/
inductive ExtractError where
  | canceled
  | unreadable (path : Bytes) (error : DiskError)
  | unlistable (error : DiskError)
  deriving DecidableEq, Repr, Inhabited

/-- The words for it. -/
def ExtractError.message : ExtractError → Bytes
  | .canceled => utf8 "context canceled"
  | .unreadable path e => utf8 "failed to load " ++ path ++ utf8 ": " ++ e.message
  | .unlistable e => e.message

/-- Works on one text, which is the only file of its set. -/
def Options.extractOnly [GoParser] (o : Options) (cache : Option Cache) (name content : Bytes)
    (flags : FileFlags) : FileSet × Outcome :=
  let file : SourceFile := { id := 0, path := Path.clean name, content, flags }
  ((({} : FileSet).add name content flags).2, o.extractFile cache name file)

/-- Works on a text that did not come from a disk. -/
def Options.extractText [GoParser] (o : Options) (canceled : Bool) (cache : Option Cache)
    (name content : Bytes) : Except ExtractError (FileSet × Outcome) :=
  if canceled then .error .canceled else .ok (o.extractOnly cache name content FileFlags.virtual)

/-- Works on one file of a disk. -/
def Options.extractPath [GoParser] (o : Options) (canceled : Bool) (cache : Option Cache)
    (disk : Disk) (path : Bytes) : Except ExtractError (FileSet × Outcome) :=
  if canceled then .error .canceled
  else
    match disk.read path with
    | .error e => .error (.unreadable path e)
    | .ok raw => .ok (o.extractOnly cache path (loadContent raw).1 (loadContent raw).2)

end Marginalia
