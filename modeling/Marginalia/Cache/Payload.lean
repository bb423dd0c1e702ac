import Marginalia.MessagePack.Record

/-!
# What the cache keeps of a file

The comments with their owners, the notes and the diagnostics of the scan, before
any choice of what to report, as bytes.  The bytes carry the number of the schema
they follow; bytes of another schema are not read.
-/

namespace Marginalia

set_option autoImplicit false

/-- What is kept of a file. -/
structure Payload where
  path : Bytes := []
  comments : List Comment := []
  notes : Notes := {}
  scanDiagnostics : List Diagnostic := []
  /-- why owners could not be found in the best way; empty if they could -/
  resolverError : Bytes := []
  deriving DecidableEq, Repr, Inhabited

namespace Payload

/-- The number of the schema. -/
def schema : UInt16 := 1

def encode (p : Payload) : Bytes := MessagePack.map
  [("Schema", some (MessagePack.word schema)),
   ("Path", some (MessagePack.str p.path)),
   ("Comments", some (MessagePack.list false Comment.pack p.comments)),
   ("Result", some (p.notes.pack true)),
   ("ScanDiags", some (MessagePack.list true Diagnostic.pack p.scanDiagnostics)),
   ("ResolverErr", some (MessagePack.str p.resolverError))]

/-- What some bytes keep, if they follow the current schema. -/
def decode (s : Bytes) : Option Payload := do
  let top : MessagePack.Writes := [← MessagePack.first? s]
  let r ← top.record ["Schema", "Path", "Comments", "Result", "ScanDiags", "ResolverErr"]
  let found ← (MessagePack.field r "Schema").latest MessagePack.Pack.word? 0
  let p : Payload := {
    path := ← (MessagePack.field r "Path").text
    comments := ← (MessagePack.field r "Comments").list Comment.ofWrites
    notes := ← Notes.ofWrites (MessagePack.field r "Result")
    scanDiagnostics := ← (MessagePack.field r "ScanDiags").list Diagnostic.ofWrites
    resolverError := ← (MessagePack.field r "ResolverErr").text }
  if found = schema then return p else none

end Payload

end Marginalia
