import Marginalia.Cache.Payload
import Marginalia.Digest.Sha256
import Marginalia.Extraction.Basic
import Marginalia.Text.Quoted

/-!
# The cache

Keeps what was found out about a file under a key that is made from the path, the
digest of the content and every option that the outcome depends on.  An entry that
cannot be read counts as missing and is replaced by the next one.
-/

namespace Marginalia

set_option autoImplicit false

/-- The digest that stands for a file under given options. -/
abbrev CacheKey := Bytes

/-- Bytes by key. -/
structure Cache where
  entries : List (CacheKey × Bytes) := []
  deriving DecidableEq, Repr, Inhabited

/-- The options that the outcome for a file depends on, as a text. -/
def Options.fingerprint (o : Options) : Bytes :=
  o.resolver.name ++ (if o.normalize then utf8 "|nfc" else [])
    ++ (o.patterns.mergeSort fun a b => !Bytes.before b a).flatMap fun p => utf8 "|" ++ p

/-- The key of a file. -/
def CacheKey.of (path contentHash : Bytes) (o : Options) : CacheKey :=
  Sha256.digest ([Payload.schema.toNat.toUInt8, (Payload.schema.toNat / 256).toUInt8] ++ contentHash
    ++ path ++ [0] ++ o.fingerprint)

/-- Where the entry of a key is kept, below the directory of the cache. -/
def CacheKey.path (key : CacheKey) : Bytes :=
  let name := Quoted.hexBytes key
  utf8 "files/" ++ name.take 2 ++ utf8 "/" ++ name ++ utf8 ".mp"

namespace Cache

/-- The bytes kept under a key. -/
def bytes? (c : Cache) (key : CacheKey) : Option Bytes :=
  (c.entries.find? fun e => e.1 = key).map Prod.snd

/-- What is kept under a key, if it can be read. -/
def get? (c : Cache) (key : CacheKey) : Option Payload := (c.bytes? key).bind Payload.decode

/-- Keeps something under a key, in place of what was there. -/
def put (c : Cache) (key : CacheKey) (p : Payload) : Cache :=
  ⟨(key, p.encode) :: c.entries.filter fun e => e.1 ≠ key⟩

end Cache

end Marginalia
