import Marginalia.Text.Quoted
import Marginalia.Toml.Read

/-!
# Documents of TOML

What the statements of a document amount to: a table of values, and the keys in the
order in which they were written.  A table that came about only as part of a longer
key may be named once more; any other key may be given a value only once, unless the
old value or the new one is an array.
-/

namespace Marginalia.Toml

set_option autoImplicit false

/-- A value of a document.  The tables inside an array are not kept. -/
inductive Value where
  | text (s : Bytes)
  | integer (n : Int)
  | bool (b : Bool)
  /-- a float, a point in time, or a table inside an array -/
  | other
  | array (items : List Value)
  | table (entries : List (Bytes × Value))
  /-- a list of tables, each with a header of its own; the last one comes first -/
  | tables (last : List (Bytes × Value)) (others : List (List (Bytes × Value)))
  deriving Inhabited

abbrev Table := List (Bytes × Value)

namespace Table

def get? (t : Table) (name : Bytes) : Option Value := (t.find? fun e => e.1 = name).map Prod.snd

def set (t : Table) (name : Bytes) (v : Value) : Table :=
  if (t.get? name).isSome then t.map fun e => if e.1 = name then (name, v) else e
  else t ++ [(name, v)]

/-- The table that a key leads to; in a list of tables that is the last one. -/
def at? : Table → Key → Option Table
  | t, [] => some t
  | t, name :: key =>
    match t.get? name with
    | some (.table inner) => at? inner key
    | some (.tables last _) => at? last key
    | _ => none

/-- Changes the table that a key leads to. -/
def modify (f : Table → Table) : Table → Key → Table
  | t, [] => f t
  | t, name :: key =>
    match t.get? name with
    | some (.table inner) => t.set name (.table (modify f inner key))
    | some (.tables last others) => t.set name (.tables (modify f last key) others)
    | _ => t

end Table

/-- A document while its statements are taken in. -/
structure Document where
  root : Table := []
  /-- the keys as they were written, last first -/
  written : List Key := []
  /-- keys of tables that were only implied -/
  implied : List Key := []
  /-- keys whose value is an array -/
  arrays : List Key := []
  deriving Inhabited

namespace Document

/-- The keys in the order in which they were written. -/
def keys (d : Document) : List Key := d.written.reverse

def imply (d : Document) (key : Key) : Document := { d with implied := key :: d.implied }

def unimply (d : Document) (key : Key) : Document :=
  { d with implied := d.implied.filter (· ≠ key) }

/-- Notes whether the value of a name is an array.  An empty name counts as the table itself. -/
def note (d : Document) (table : Key) (name : Bytes) (isArray : Bool) : Document :=
  let key := match table ++ (if name.isEmpty then [] else [name]) with
    | [] => [[]]
    | key => key
  { d with arrays := (if isArray then [key] else []) ++ d.arrays.filter (· ≠ key) }

/-- Gives a name in a table a value. -/
def put (d : Document) (table : Key) (name : Bytes) (v : Value) : Option Document := do
  let here ← d.root.at? table
  let key := table ++ [name]
  let stored : Document := { d with root := d.root.modify (·.set name v) table }
  -- An array may be written over; a table that was only implied keeps its content.
  if (here.get? name).isNone then return stored
  else if d.arrays.contains key then return stored.unimply key
  else if d.implied.contains key then return d.unimply key
  else none

/-- Makes the tables on the way to a key, as far as there are none. -/
def reach (d : Document) (done : Key) : (todo : Key) → Option Document
  | [] => some d
  | name :: todo => do
    let here ← d.root.at? done
    let d := if (here.get? name).isSome then d
      else { d.imply (done ++ [name]) with root := d.root.modify (·.set name (.table [])) done }
    -- What was there before decides: a value that is no table has no names inside.
    match here.get? name with
    | none | some (.table _) | some (.tables _ _) => reach d (done ++ [name]) todo
    | _ => none

/-- Opens a table, or a further table of a list of tables. -/
def enter (d : Document) (key : Key) (further : Bool) : Option Document := do
  let name ← key.getLast?
  let table := key.dropLast
  let d ← d.reach [] table
  if further then
    let here ← d.root.at? table
    let v ← match here.get? name with
      | none => some (Value.tables [] [])
      | some (.tables last others) => some (.tables [] (last :: others))
      | _ => none
    return { d with root := d.root.modify (·.set name v) table }
  else d.put table name (.table [])

/-- Opens the tables that the parts of a dotted key imply. -/
def enterParts (d : Document) (table : Key) : (parts : Key) → Option (Document × Key)
  | [] => some (d, table)
  | part :: parts => do
    let key := table ++ [part]
    let d ← (d.imply key).enter key false
    d.enterParts key parts

mutual

/-- The value of an expression that is given to a name in a table. -/
def value (d : Document) (table : Key) (name : Bytes) (inArray : Bool) : Expr → Option (Document × Value)
  | .text s => some (d, .text s)
  | .integer n => some (d, .integer n)
  | .bool b => some (d, .bool b)
  | .float => some (d, .other)
  | .moment => some (d, .other)
  | .array items => do
    let (d, vs) ← values (d.note table name true) table name items
    return (d, .array vs)
  | .table entries => do
    let key := table ++ [name]
    let d ← (d.imply key).enter key inArray
    let (d, inner) ← assignAll d key entries []
    return (d, if inArray then .other else .table inner)

/-- The values of the items of an array. -/
def values (d : Document) (table : Key) (name : Bytes) : List Expr → Option (Document × List Value)
  | [] => some (d, [])
  | e :: es => do
    let (d, v) ← value d table name true e
    let (d, vs) ← values d table name es
    return (d, v :: vs)

/-- Takes in the entries of a table.  The values are also gathered by the last parts of their keys:
they take the place of an array that the table is written over. -/
def assignAll (d : Document) (table : Key) : List (Key × Expr) → (gathered : Table) →
    Option (Document × Table)
  | [], gathered => some (d, gathered)
  | (key, e) :: entries, gathered => do
    let (d, table') ← d.enterParts table key.dropLast
    let name ← key.getLast?
    let d := { d with written := (table' ++ [name]) :: d.written }
    let (d, v) ← value d table' name false e
    let d ← d.put table' name v
    assignAll (d.note table' name (v matches .array _)) table entries (gathered.set name v)

end

/-- Takes in a statement; `table` is the table of the last header. -/
def add (d : Document) (table : Key) : Statement → Option (Document × Key)
  | .table key => do
    let d ← d.enter key false
    return ({ d.note key [] false with written := key :: d.written }, key)
  | .tables key => do
    let d ← d.enter key true
    return ({ d.note key [] false with written := key :: d.written }, key)
  | .assign key e => do
    let (d, _) ← d.assignAll table [(key, e)] []
    return (d, table)

def addAll (d : Document) (table : Key) : List Statement → Option Document
  | [] => some d
  | s :: ss => do
    let (d, table) ← d.add table s
    d.addAll table ss

/-- The document that a text stands for. -/
def ofText? (text : Bytes) : Option Document :=
  (statementsOfText? text).bind (Document.addAll {} [])

end Document

/-! ## Keys as text -/

/-- A character of a quoted part of a key. -/
def escapeChar (c : Char) : Bytes :=
  if c == '\x22' then utf8 "\\\""
  else if c == '\\' then utf8 "\\\\"
  else if c == '\x08' then utf8 "\\b"
  else if c == '\t' then utf8 "\\t"
  else if c == '\n' then utf8 "\\n"
  else if c == '\x0c' then utf8 "\\f"
  else if c == '\r' then utf8 "\\r"
  else if c.toNat < 0x20 || c.toNat == 0x7F then utf8 "\\u" ++ Quoted.hex 4 c.toNat
  else Utf8.encodeChar c

/-- A part of a key; one that needs quotes gets them. -/
def partText (part : Bytes) : Bytes :=
  let cs := Utf8.chars part
  if !cs.isEmpty && cs.all isBare then part
  else utf8 "\"" ++ cs.flatMap escapeChar ++ utf8 "\""

/-- A dotted key as a text. -/
def Key.text (key : Key) : Bytes := Bytes.join (utf8 ".") (key.map partText)

end Marginalia.Toml
