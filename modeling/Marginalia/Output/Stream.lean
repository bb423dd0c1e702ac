import Marginalia.MessagePack.Record
import Marginalia.Output.Basic

/-!
# Notes as a stream of MessagePack

One map for each file, one after the other: its path, why it could not be read, its
notes, and its comments if these are wanted.
-/

namespace Marginalia

set_option autoImplicit false

/-- How notes are written. -/
structure StreamOptions where
  style : PathStyle := .auto
  comments : Bool := false
  deriving DecidableEq, Repr, Inhabited

/-- The map of a file. -/
def Stream.file (o : StreamOptions) (scene : Scene) (r : FileResult) : Bytes := MessagePack.map
  [("path", some (MessagePack.str (scene.display o.style r.path))),
   ("error", (r.error.filter (!·.isEmpty)).map MessagePack.str),
   ("result", some (r.notes.pack r.folded)),
   ("comments",
     if o.comments && !r.comments.isEmpty then some (MessagePack.array (r.comments.map Comment.pack))
     else none)]

/-- The notes of all files. -/
def writeStream (o : StreamOptions) (scene : Scene) (results : List FileResult) : Bytes :=
  results.flatMap (Stream.file o scene)

end Marginalia
