import Marginalia.Extraction.Files
import Marginalia.Extraction.Source

/-!
# Extraction from a directory

Works on all files of a directory that have one of the extensions.  The results
come in the order of the paths, whatever the order in which the files are worked
on.  A file that cannot be read gets a result that says so, and does not concern
the others.
-/

namespace Marginalia

set_option autoImplicit false

/-- What comes of a directory. -/
structure DirectoryOutcome where
  files : FileSet
  results : List FileResult
  events : List Event
  cache : Option Cache
  deriving Inhabited

/-- Reads files one after the other; the result for each is the file, or why it could not be read. -/
def FileSet.loadAll (s : FileSet) (disk : Disk) : List Bytes →
    FileSet × List (Bytes × Except DiskError SourceFile)
  | [] => (s, [])
  | path :: rest =>
    match disk.read path with
    | .error e =>
      let (s, more) := s.loadAll disk rest
      (s, (path, .error e) :: more)
    | .ok raw =>
      let file : SourceFile :=
        { id := s.size, path := Path.clean path, content := (loadContent raw).1,
          flags := (loadContent raw).2 }
      let (s, more) := (s.add path file.content file.flags).2.loadAll disk rest
      (s, (path, .ok file) :: more)

/-- Works on one file that was read, or could not be. -/
def Options.extractLoaded [GoParser] (o : Options) (cache : Option Cache) (path : Bytes) :
    Except DiskError SourceFile → Outcome
  | .ok file => o.extractFile cache path file
  | .error e =>
    { result := { path, error := some e.message, bag := some (o.bag [] []) }
      events := [⟨path, .load, .error, some e.message⟩]
      cache }

/-- Works on files one after the other; each finds the cache as the one before left it. -/
def Options.extractAll [GoParser] (o : Options) (cache : Option Cache) :
    List (Bytes × Except DiskError SourceFile) → List Outcome × Option Cache
  | [] => ([], cache)
  | (path, loaded) :: rest =>
    let outcome := o.extractLoaded cache path loaded
    let (more, cache) := o.extractAll outcome.cache rest
    (outcome :: more, cache)

/-- Works on all files of a directory. -/
def Options.extractDirectory [GoParser] (o : Options) (canceled : Bool) (cache : Option Cache)
    (disk : Disk) (dir : Bytes) : Except ExtractError DirectoryOutcome :=
  match disk.listFiles dir o.extensions with
  | .error e => .error (.unlistable e)
  | .ok paths =>
    if canceled && !paths.isEmpty then .error .canceled
    else
      let (files, loaded) := ({ base := dir } : FileSet).loadAll disk paths
      let (outcomes, cache) := o.extractAll cache loaded
      .ok { files
            results := outcomes.map Outcome.result
            events := paths.map (fun p => ⟨p, .load, .queued, none⟩) ++ outcomes.flatMap Outcome.events
            cache }

end Marginalia
