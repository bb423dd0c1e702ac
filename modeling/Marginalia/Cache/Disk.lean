import Marginalia.Cache.Basic
import Marginalia.Disk

/-!
# Caches on a disk

A cache is read from its directory, and written back to it.
-/

namespace Marginalia.Cache

set_option autoImplicit false

/-- The bytes that hexadecimal digits stand for. -/
def bytesOfHex? : Bytes → Option Bytes
  | [] => some []
  | a :: b :: rest => do
    let high ← Bytes.hexValue? a
    let low ← Bytes.hexValue? b
    return (high * 16 + low).toUInt8 :: (← bytesOfHex? rest)
  | [_] => none

/-- The key of a file of the cache, by its name. -/
def keyOfName? (name : Bytes) : Option CacheKey :=
  match name.reverse with
  | 112 :: 109 :: 46 :: digits => bytesOfHex? digits.reverse
  | _ => none

/-- The files of a directory, or none if it is not there. -/
def namesIn (disk : Disk) (dir : Bytes) : List Bytes :=
  match disk.list dir with
  | .ok entries => entries.map Prod.fst
  | .error _ => []

/-- The entries that are kept below a directory, each in the place that belongs to its key. -/
def entriesIn (disk : Disk) (dir : Bytes) : List (CacheKey × Bytes) :=
  let files := Path.join [dir, utf8 "files"]
  (namesIn disk files).flatMap fun group =>
    (namesIn disk (Path.join [files, group])).filterMap fun name => do
      let key ← keyOfName? name
      let path := Path.join [files, group, name]
      guard (Path.join [dir, CacheKey.path key] = path)
      let content ← (disk.read path).toOption
      return (key, content)

/-- Opens the cache in a directory and makes the directory if needed.  There is no cache if this
fails. -/
def openIn (disk : Disk) (dir : Bytes) : Option (Disk × Cache) :=
  match disk.makeDirs dir with
  | .ok disk => some (disk, ⟨entriesIn disk dir⟩)
  | .error _ => none

/-- Writes an entry; nothing happens if this fails. -/
def writeEntry (disk : Disk) (dir : Bytes) (e : CacheKey × Bytes) : Disk :=
  let path := Path.join [dir, CacheKey.path e.1]
  match disk.makeDirs (Path.directory path) with
  | .ok disk => (disk.write path e.2).toOption.getD disk
  | .error _ => disk

/-- Writes the cache to its directory. -/
def saveIn (c : Cache) (disk : Disk) (dir : Bytes) : Disk :=
  c.entries.foldl (fun disk e => writeEntry disk dir e) disk

end Marginalia.Cache
