import Marginalia.Cache.Basic
import Marginalia.Path

/-!
# The directory of a cache

A cache is kept in a directory that may be taken away as a whole; the next entry
makes it anew.
-/

namespace Marginalia

set_option autoImplicit false

/-- A cache and the directory that it is kept in. -/
structure CacheDirectory where
  path : Bytes
  /-- is the directory there? -/
  present : Bool := true
  cache : Cache := {}
  deriving DecidableEq, Repr, Inhabited

namespace CacheDirectory

/-- The files of the directory with their content, sorted by path. -/
def files (d : CacheDirectory) : List (Bytes × Bytes) :=
  (d.cache.entries.map fun e => (Path.join [d.path, CacheKey.path e.1], e.2)).mergeSort
    fun a b => !Bytes.before b.1 a.1

/-- Gives every file the same content. -/
def overwrite (d : CacheDirectory) (content : Bytes) : CacheDirectory :=
  { d with cache := ⟨d.cache.entries.map fun e => (e.1, content)⟩ }

/-- Takes the directory away. -/
def drop (d : CacheDirectory) : CacheDirectory := { d with present := false, cache := {} }

/-- Takes over what an extraction made of the cache; one that worked without a cache leaves none. -/
def keep (d : CacheDirectory) : Option Cache → CacheDirectory
  | some cache => { d with present := true, cache }
  | none => d

end CacheDirectory

end Marginalia
