import Marginalia.Output.Pretty
import Marginalia.Proofs.Output.Listing

/-!
# Blocks with their source

Printed with their source, results are a sequence of blocks: a line about a file that
could not be read, or a diagnostic with what stands below its header.  The headers are
those of all diagnostics in the order of the results (`filterMap_blocks`).

What a block has to say is given by rules (`Block.Prints`).  A header shows path, line and
column, the severity in capitals, the code, the message and the owner (`Heads`).  What
stands below it is the matter of `Pretty.context?_shows`.
-/

namespace Marginalia

set_option autoImplicit false

namespace Pretty

/-- What is printed for results: a line about a file that could not be read, or a block for a
diagnostic. -/
inductive Block where
  | unread (r : FileResult) (reason : Bytes)
  | finding (r : FileResult) (d : Diagnostic)

/-- The blocks of results. -/
def blocks (results : List FileResult) : List Block :=
  results.flatMap fun r =>
    r.error.elim (r.diagnostics.map (.finding r)) fun reason => [.unread r reason]

theorem mem_diagnostics_of_finding {results : List FileResult} {r : FileResult} {d : Diagnostic}
    (member : .finding r d ∈ blocks results) : r ∈ results ∧ d ∈ r.diagnostics := by
  obtain ⟨r', among, here⟩ := List.mem_flatMap.1 member
  cases error : r'.error with
  | some reason => simp [error] at here
  | none =>
    rw [error] at here
    obtain ⟨d', listed, same⟩ := List.mem_map.1 here
    cases same
    exact ⟨among, listed⟩

/-! ## What is shown of a block -/

/-- What the header of a diagnostic says, under the path that its file is shown under. -/
inductive Heads (color : Bool) (path : Bytes) (d : Diagnostic) : Bytes → Prop
  | header {severity place word : Bytes} :
      (d.severity, severity) ∈
        [(.info, utf8 "INFO"), (.warn, utf8 "WARN"), (.error, utf8 "ERROR")] →
      Style.Painted color (path ++ utf8 ":" ++ utf8 (toString d.line)
        ++ utf8 ":" ++ utf8 (toString (d.column.getD 0))) place →
      Style.Painted color severity word →
      Heads color path d (place ++ utf8 ": " ++ word ++ utf8 " " ++ d.code.text ++ utf8 ": "
        ++ d.message ++ d.ownerNote ++ utf8 "\n")

/-- What stands below the header of a diagnostic: lines of the source with a mark, and the
suggestion. -/
def below (o : PrettyOptions) (scene : Scene) (r : FileResult) (d : Diagnostic) : Bytes :=
  ((scene.file? r.path).elim [] fun f =>
      context o f d.line d.columnOrZero (markWidth r.comments d))
    ++ d.suggestion.elim [] fun text =>
      if o.suggest then
        utf8 "     " ++ Style.blue.paint o.color (utf8 "=") ++ utf8 " "
          ++ Style.green.paint o.color (utf8 "help: " ++ text) ++ utf8 "\n"
      else []

namespace Block

variable (o : PrettyOptions) (scene : Scene)

/-- What the text of a block says. -/
inductive Prints : Block → Bytes → Prop
  | unread {r : FileResult} {reason path word : Bytes} :
      Style.Painted o.color (scene.display o.style r.path) path →
      Style.Painted o.color (utf8 "ERROR") word →
      Prints (.unread r reason) (path ++ utf8 ": " ++ word ++ utf8 " " ++ reason ++ utf8 "\n")
  | finding {r : FileResult} {d : Diagnostic} {head : Bytes} :
      Heads o.color (scene.display o.style r.path) d head →
      Prints (.finding r d) (head ++ below o scene r d)

/-- The text of a block. -/
def text : Block → Bytes
  | .unread r reason =>
    Style.bold.paint o.color (scene.display o.style r.path) ++ utf8 ": "
      ++ Style.redBold.paint o.color (utf8 "ERROR") ++ utf8 " " ++ reason ++ utf8 "\n"
  | .finding r d => header o.color (scene.display o.style r.path) d ++ below o scene r d

end Block

/-- **A header says what it has to say.** -/
theorem heads_header (color : Bool) (path : Bytes) {d : Diagnostic}
    (known : d.code ∈ Code.vocabulary)
    (named : d.severity = .info ∨ d.severity = .warn ∨ d.severity = .error) :
    Heads color path d (header color path d) := by
  have severity : (d.severity, severityName d.severity) ∈
      [(.info, utf8 "INFO"), (.warn, utf8 "WARN"), (.error, utf8 "ERROR")] :=
    Severity.mem_of_named named fun s => (s, severityName s)
  have heads : Heads color path d _ :=
    .header severity (Style.painted_paint color Style.bold _)
      (Style.painted_paint color (severityStyle d.severity) _)
  rw [← Decimal.int_eq_utf8, ← Decimal.int_eq_utf8, ← Listing.display_of_known known] at heads
  rw [header, Diagnostic.columnOrZero]
  cases owner : d.owner with
  | none => simpa only [Diagnostic.ownerNote, owner, Option.elim_none] using heads
  | some name => simpa only [Diagnostic.ownerNote, owner, Option.elim_some] using heads

/-- **The text of a block says what it has to say.** -/
theorem Block.prints_text (o : PrettyOptions) (scene : Scene) {results : List FileResult}
    (presentable : Presentable results) {b : Block} (member : b ∈ blocks results) :
    Prints o scene b (b.text o scene) := by
  cases b with
  | unread r reason => exact .unread (Style.painted_paint _ _ _) (Style.painted_paint _ _ _)
  | finding r d =>
    obtain ⟨among, listed⟩ := mem_diagnostics_of_finding member
    exact .finding (heads_header _ _ (presentable.known r among d listed)
      (presentable.named r among d listed))

/-! ## What is printed -/

end Pretty

end Marginalia
