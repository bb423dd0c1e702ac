import Marginalia.Output.Fragments
import Marginalia.Proofs.Notes.Owners
import Marginalia.Proofs.Output.Painted
import Marginalia.Proofs.Text.Cluster
import Mathlib.Data.List.Forall2

/-!
# Notes are listed once

The listing of notes goes through the owners of each file and prints the notes of one
owner after the other.  It is a sequence of parts, each of which shows one example, one
tech-debt note, or none.  As the owners divide the notes, each example and each tech-debt
note of a file that could be read has one part in the listing of the file (`listedOnce`).

What the text of a part has to say is given by rules (`Part.Prints`): an example is shown
with its line, its code, which may be cut to a width (`Clips`), and what is expected of it;
a tech-debt note with its line and its reason.
-/

namespace Marginalia

set_option autoImplicit false

namespace Fragments

/-- A part of the listing. -/
inductive Part where
  /-- the path of a file with notes -/
  | file (path : Bytes)
  /-- a file that could not be read -/
  | unread (path reason : Bytes)
  | description (text : Bytes)
  | owner (name : Bytes)
  /-- an example in a column of the given width -/
  | example_ (width : Nat) (e : Example)
  | debt (d : TechDebt)

/-! ## What is shown of a part -/

/-- The beginning of the line of a note: the number of the line, in four places. -/
def LeadsWith (line : Int) (text : Bytes) : Prop :=
  text = utf8 "    L" ++ utf8 (toString line)
    ++ List.replicate (4 - (utf8 (toString line)).length) Bytes.space ++ utf8 " "

/-- How a code is shown under a limit of cells: as it is if there is no limit or if it fits, and else
what is kept of it, with dots behind it if there is room for more than these. -/
inductive Clips (limit : Int) (code : Bytes) : Bytes → Prop
  | unlimited : limit ≤ 0 → Clips limit code code
  | fits : Bytes.cellWidth code ≤ limit → Clips limit code code
  | cut {kept : Bytes} : 0 < limit → limit ≤ 3 → limit < Bytes.cellWidth code →
      Bytes.KeepsWithin limit.toNat code kept → Clips limit code kept
  | dotted {kept : Bytes} : 3 < limit → limit < Bytes.cellWidth code →
      Bytes.KeepsWithin (limit.toNat - 3) code kept → Clips limit code (kept ++ utf8 "...")

namespace Part

/-- What the text of a part says. -/
inductive Prints (o : FragmentsOptions) : Part → Bytes → Prop
  | file {path shown : Bytes} : Style.Painted o.color path shown →
      Prints o (.file path) (shown ++ utf8 "\n")
  | unread {path reason shown : Bytes} : Style.Painted o.color path shown →
      Prints o (.unread path reason) (shown ++ utf8 ": error: " ++ reason ++ utf8 "\n")
  | description {text : Bytes} :
      Prints o (.description text) (utf8 "  description: " ++ text ++ utf8 "\n")
  | owner {name shown : Bytes} : name ≠ [] → Style.Painted o.color name shown →
      Prints o (.owner name) (utf8 "  " ++ shown ++ utf8 "\n")
  | unowned {shown : Bytes} : Style.Painted o.color (utf8 "<unowned>") shown →
      Prints o (.owner []) (utf8 "  " ++ shown ++ utf8 "\n")
  /-- an example that nothing is expected of -/
  | example_ {width : Nat} {e : Example} {lead code : Bytes} : e.expected = none →
      LeadsWith e.line lead → Clips o.width e.code code →
      Prints o (.example_ width e) (lead ++ code ++ utf8 "\n")
  /-- what is expected stands behind the column of codes -/
  | expecting {width : Nat} {e : Example} {value lead code : Bytes} : e.expected = some value →
      LeadsWith e.line lead → Clips o.width e.code code →
      Prints o (.example_ width e) (lead ++ code
        ++ List.replicate (width - Bytes.cellWidth code) Bytes.space ++ utf8 "  ⇒ " ++ value
        ++ utf8 "\n")
  | debt {d : TechDebt} {lead word : Bytes} : d.reason ≠ [] →
      LeadsWith d.line lead → Style.Painted o.color (utf8 "debt:") word →
      Prints o (.debt d) (lead ++ word ++ utf8 " " ++ d.reason ++ utf8 "\n")
  | unreasoned {d : TechDebt} {lead word : Bytes} : d.reason = [] →
      LeadsWith d.line lead → Style.Painted o.color (utf8 "debt:") word →
      Prints o (.debt d) (lead ++ word ++ utf8 " " ++ utf8 "(no reason)" ++ utf8 "\n")

/-- The example that a part shows. -/
def example? : Part → Option Example
  | .example_ _ e => some e
  | _ => none

/-- The tech-debt note that a part shows. -/
def debt? : Part → Option TechDebt
  | .debt d => some d
  | _ => none

/-- The text of a part. -/
def text (o : FragmentsOptions) : Part → Bytes
  | .file path => Style.bold.paint o.color path ++ utf8 "\n"
  | .unread path reason => Style.bold.paint o.color path ++ utf8 ": error: " ++ reason ++ utf8 "\n"
  | .description text => utf8 "  description: " ++ text ++ utf8 "\n"
  | .owner name =>
    utf8 "  " ++ Style.cyan.paint o.color (if name.isEmpty then utf8 "<unowned>" else name)
      ++ utf8 "\n"
  | .example_ width e => exampleLine o.width width e
  | .debt d => debtLine o.color d

end Part

theorem leadsWith_lead (line : Int) : LeadsWith line (lead line) := by
  rw [LeadsWith, lead, Decimal.padRight, Decimal.int_eq_utf8, ← List.append_assoc]

/-- **A code is cut to the limit, and not further.** -/
theorem clips_clip (limit : Int) (code : Bytes) : Clips limit code (clip limit code) := by
  have dots : Bytes.cellWidth (utf8 "...") = 3 := by decide +kernel
  have nothing : Bytes.cellWidth [] = 0 := by decide +kernel
  rw [clip]
  split
  case isTrue unlimited => exact .unlimited unlimited
  case isFalse positive =>
    rw [Bytes.cutToWidth, Bytes.cutToWidth, dots, nothing]
    by_cases fits : Bytes.cellWidth code ≤ limit.toNat
    · rw [if_pos fits, if_pos fits, ite_self]
      exact .fits (by omega)
    · rw [if_neg fits, if_neg fits, if_pos (Nat.zero_le _), List.append_nil]
      split
      case isTrue short =>
        exact .cut (by omega) short (by omega) (Bytes.keepsWithin_fitting _ code)
      case isFalse long =>
        rw [if_pos (by omega)]
        exact .dotted (by omega) (by omega) (Bytes.keepsWithin_fitting _ code)

/-- **The text of a part says what it has to say.** -/
theorem Part.prints_text (o : FragmentsOptions) (p : Part) : p.Prints o (p.text o) := by
  cases p with
  | file path => exact .file (Style.painted_paint _ _ _)
  | unread path reason => exact .unread (Style.painted_paint _ _ _)
  | description text => exact .description
  | owner name =>
    rw [text]
    split
    case isTrue empty =>
      obtain rfl := List.isEmpty_iff.1 empty
      exact .unowned (Style.painted_paint _ _ _)
    case isFalse named =>
      exact .owner (mt List.isEmpty_iff.2 named) (Style.painted_paint _ _ _)
  | example_ width e =>
    rw [text, exampleLine]
    split
    case h_1 plain => exact .example_ plain (leadsWith_lead _) (clips_clip _ _)
    case h_2 value expected =>
      rw [Bytes.fillRight, ← List.append_assoc]
      exact .expecting expected (leadsWith_lead _) (clips_clip _ _)
  | debt d =>
    rw [text, debtLine]
    split
    case isTrue empty =>
      exact .unreasoned (List.isEmpty_iff.1 empty) (leadsWith_lead _) (Style.painted_paint _ _ _)
    case isFalse reason =>
      exact .debt (mt List.isEmpty_iff.2 reason) (leadsWith_lead _) (Style.painted_paint _ _ _)

/-! ## The parts of the listing -/

/-- The width of the column of examples. -/
def columnWidth (o : FragmentsOptions) (examples : List Example) : Nat :=
  ((examples.map fun e => Bytes.cellWidth (clip o.width e.code)).max?).getD 0

/-- The parts for one owner: the name, the examples, the tech-debt notes. -/
def ownerParts (o : FragmentsOptions) (n : Notes) (name : Bytes) : List Part :=
  .owner name :: ((n.examplesOf name).map (.example_ (columnWidth o (n.examplesOf name)))
    ++ (n.debtsOf name).map .debt)

/-- The parts for a file. -/
def fileParts (o : FragmentsOptions) (scene : Scene) (r : FileResult) : List Part :=
  match r.error with
  | some e => [.unread (scene.display o.style r.path) e]
  | none =>
    if r.notes.isEmpty then []
    else
      .file (scene.display o.style r.path) :: (r.notes.description.toList.map .description
        ++ r.notes.owners.flatMap (ownerParts o r.notes))

theorem owner_eq (o : FragmentsOptions) (n : Notes) (name : Bytes) :
    owner o n name = (ownerParts o n name).flatMap (Part.text o) := by
  rw [owner, ownerParts, List.flatMap_cons, List.flatMap_append, List.flatMap_map, List.flatMap_map,
    List.append_assoc]
  rfl

theorem file_eq (o : FragmentsOptions) (scene : Scene) (r : FileResult) :
    file o scene r = (fileParts o scene r).flatMap (Part.text o) := by
  have owners : r.notes.owners.flatMap (owner o r.notes)
      = (r.notes.owners.flatMap (ownerParts o r.notes)).flatMap (Part.text o) := by
    rw [List.flatMap_assoc]
    exact List.flatMap_congr fun name _ => owner_eq o r.notes name
  rw [file, fileParts]
  cases r.error with
  | some e => simp [Part.text]
  | none =>
    dsimp only
    split
    case isTrue => rfl
    case isFalse =>
      rw [owners, List.flatMap_cons, List.flatMap_append]
      cases r.notes.description <;> simp [Part.text]

/-- The examples of an owner are shown, each by one part. -/
theorem filterMap_example_ownerParts (o : FragmentsOptions) (n : Notes) (name : Bytes) :
    (ownerParts o n name).filterMap Part.example? = n.examplesOf name := by
  have debts : ∀ ds : List TechDebt, (ds.map Part.debt).filterMap Part.example? = [] := by
    intro ds
    rw [List.filterMap_map]
    exact List.filterMap_eq_nil_iff.2 fun _ _ => rfl
  rw [ownerParts, List.filterMap_cons_none rfl, List.filterMap_append, debts, List.append_nil,
    List.filterMap_map]
  exact List.filterMap_some

/-- The tech-debt notes of an owner are shown, each by one part. -/
theorem filterMap_debt_ownerParts (o : FragmentsOptions) (n : Notes) (name : Bytes) :
    (ownerParts o n name).filterMap Part.debt? = n.debtsOf name := by
  have examples : ∀ (width : Nat) (es : List Example),
      (es.map (Part.example_ width)).filterMap Part.debt? = [] := by
    intro width es
    rw [List.filterMap_map]
    exact List.filterMap_eq_nil_iff.2 fun _ _ => rfl
  rw [ownerParts, List.filterMap_cons_none rfl, List.filterMap_append, examples, List.nil_append,
    List.filterMap_map]
  exact List.filterMap_some

/-- What the parts for a file that could be read show is what the parts for its owners show. -/
theorem filterMap_fileParts {α : Type} (o : FragmentsOptions) (scene : Scene) {r : FileResult}
    (read : r.error = none) {show? : Part → Option α} (file : ∀ path, show? (.file path) = none)
    (description : ∀ text, show? (.description text) = none) :
    (fileParts o scene r).filterMap show?
      = r.notes.owners.flatMap fun name => (ownerParts o r.notes name).filterMap show? := by
  rw [fileParts, read]
  dsimp only
  split
  case isTrue empty =>
    have none : r.notes.owners = [] := by
      simp only [Notes.isEmpty, Bool.and_eq_true, List.isEmpty_iff] at empty
      rw [Notes.owners, empty.1.2, empty.2]
      rfl
    rw [none]
    rfl
  case isFalse =>
    have before : (r.notes.description.toList.map Part.description).filterMap show? = [] := by
      rw [List.filterMap_map]
      exact List.filterMap_eq_nil_iff.2 fun text _ => description text
    rw [List.filterMap_cons_none (file _), List.filterMap_append, before, List.nil_append,
      List.filterMap_flatMap]

/-- Notes are listed once: the listing consists of the parts for each file, and each example and each
tech-debt note of a file that could be read has one part there. -/
structure ListedOnce (o : FragmentsOptions) (scene : Scene) (results : List FileResult) : Prop where
  text : ∃ texts, List.Forall₂ (Part.Prints o) (results.flatMap (fileParts o scene)) texts ∧
    printFragments o scene results = texts.flatten
  examples : ∀ r ∈ results, ((fileParts o scene r).filterMap Part.example?).Perm
    (if r.error.isSome then [] else r.notes.examples)
  debts : ∀ r ∈ results, ((fileParts o scene r).filterMap Part.debt?).Perm
    (if r.error.isSome then [] else r.notes.debts)

/-- **The listing shows every note once.** -/
theorem listedOnce (o : FragmentsOptions) (scene : Scene) (results : List FileResult) :
    ListedOnce o scene results where
  text := by
    refine ⟨(results.flatMap (fileParts o scene)).map (Part.text o), ?_, ?_⟩
    · rw [List.forall₂_map_right_iff, List.forall₂_same]
      exact fun p _ => p.prints_text o
    · rw [printFragments, ← List.flatMap_def, List.flatMap_assoc]
      exact List.flatMap_congr fun r _ => file_eq o scene r
  examples r _ := by
    cases error : r.error with
    | some e => rw [fileParts, error]; exact .refl _
    | none =>
      rw [filterMap_fileParts o scene error (fun _ => rfl) fun _ => rfl]
      simp only [filterMap_example_ownerParts]
      exact r.notes.dividedByOwner.examples_perm
  debts r _ := by
    cases error : r.error with
    | some e => rw [fileParts, error]; exact .refl _
    | none =>
      rw [filterMap_fileParts o scene error (fun _ => rfl) fun _ => rfl]
      simp only [filterMap_debt_ownerParts]
      exact r.notes.dividedByOwner.debts_perm

end Fragments

/-- **Owners divide the notes, and the listing by owners shows every note once.** -/
theorem notes_divided_and_listed :
    (∀ n : Notes, n.DividedByOwner) ∧
      ∀ (o : FragmentsOptions) (scene : Scene) (results : List FileResult),
        Fragments.ListedOnce o scene results :=
  ⟨Notes.dividedByOwner, Fragments.listedOnce⟩

/-- The notes of one owner: two examples, of which one is cut, and a note without a reason. -/
def Fragments.loadNotes : Notes where
  examples :=
    [{ code := utf8 "load(1)", expected := some (utf8 "2"), line := 3, raw := [],
       owner := some (utf8 "load") },
     { code := utf8 "load(40000)", expected := none, line := 12, raw := [],
       owner := some (utf8 "load") }]
  debts := [{ line := 104, reason := [], raw := [], owner := some (utf8 "load") }]

example : printFragments { width := 8 } {} [{ path := utf8 "a.go", notes := Fragments.loadNotes }]
    = utf8 "a.go\n  load\n    L3    load(1)   ⇒ 2\n    L12   load(...\n" ++
      utf8 "    L104  debt: (no reason)\n" := by
  decide +kernel

end Marginalia
