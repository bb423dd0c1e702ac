import Marginalia.CommandLine.Flag
import Marginalia.Unicode.LowerCase

/-!
# Commands

The commands of the program and the flags of each.  The name of a command is the
first argument that is neither a flag nor the value of a flag; flags may stand before
it.  A name that is not known gets suggestions: the commands that start with it, and
those that differ from it in at most two places.
-/

namespace Marginalia.CommandLine

set_option autoImplicit false

/-- What the program can do. -/
inductive Command where
  /-- no command at all -/
  | top
  | diag
  | extract
  | fold
  | version
  | help
  | completion
  deriving DecidableEq, Repr, Inhabited

/-! ## Flags of the commands -/

def textFlag (name : String) : Flag := ⟨utf8 name, .text, none⟩
def intFlag (name : String) : Flag := ⟨utf8 name, .int, none⟩
def boolFlag (name : String) : Flag := ⟨utf8 name, .bool, none⟩

/-- Flags of all commands. -/
def commonFlags : List Flag :=
  [textFlag "color", boolFlag "quiet", boolFlag "timings", intFlag "max-diagnostics",
   boolFlag "verbose", textFlag "config", textFlag "cpu-profile", textFlag "mem-profile",
   textFlag "runtime-trace"]

/-- Flags of the commands that look at files. -/
def runFlags : List Flag :=
  [intFlag "jobs", boolFlag "cache", textFlag "ui", textFlag "resolver"]

namespace Command

/-- Flags of one command only. -/
def ownFlags : Command → List Flag
  | .top => [⟨utf8 "version", .bool, some 118⟩]
  | .diag =>
    [textFlag "format", boolFlag "no-info", boolFlag "warnings-as-errors", boolFlag "suggest",
     intFlag "context", textFlag "path-mode"] ++ runFlags
  | .extract =>
    [textFlag "format", boolFlag "comments", intFlag "width", textFlag "path-mode"] ++ runFlags
  | .fold => [boolFlag "strict"]
  | .version =>
    [textFlag "format", boolFlag "hash", boolFlag "message", boolFlag "date", boolFlag "full"]
  | .help => []
  | .completion => []

/-- All flags of a command. -/
def flags (c : Command) : List Flag :=
  c.ownFlags ++ commonFlags ++ [⟨utf8 "help", .bool, some 104⟩]

/-- The commands by name. -/
def byName : List (Bytes × Command) :=
  [(utf8 "diag", .diag), (utf8 "extract", .extract), (utf8 "fold", .fold), (utf8 "version", .version),
   (utf8 "help", .help), (utf8 "completion", .completion)]

/-- The command with a name. -/
def ofName? (name : Bytes) : Option Command := (byName.find? fun e => e.1 = name).map Prod.snd

/-- The commands that are suggested. -/
def suggested : List Bytes :=
  (byName.filter fun e => e.2 ≠ .help).map Prod.fst

end Command

/-! ## Finding the command -/

/-- Does an argument look like a flag that takes its value from the next argument?  This is so for a
flag that is not known, too. -/
def takesNext (flags : List Flag) (argument : Bytes) : Bool :=
  !argument.contains 61 &&
    match argument with
    | 45 :: 45 :: name => !((flags.find? fun f => f.name = name).any Flag.isBool)
    | [45, letter] => !((flags.find? fun f => f.letter = some letter).any Flag.isBool)
    | _ => false

/-- The first argument that is neither a flag nor the value of a flag. -/
def firstWord? (flags : List Flag) : List Bytes → Option Bytes
  | [] => none
  | argument :: rest =>
    if argument = utf8 "--" then none
    else if takesNext flags argument then
      match rest with
      | [] => none
      | [_] => none
      | _ :: rest => firstWord? flags rest
    else if argument.isEmpty || Bytes.startsWith (utf8 "-") argument then firstWord? flags rest
    else some argument

/-- The arguments without the first that is the given word and not the value of a flag. -/
def dropWord (flags : List Flag) (word : Bytes) : List Bytes → List Bytes
  | [] => []
  | argument :: rest =>
    if argument = utf8 "--" then argument :: rest
    else if takesNext flags argument then
      match rest with
      | [] => [argument]
      | value :: rest => argument :: value :: dropWord flags word rest
    else if argument = word then rest
    else argument :: dropWord flags word rest

/-! ## Suggestions -/

/-- One row of the table of distances, from the row before. -/
def distanceRow (c : UInt8) : (left : Nat) → (above : List Nat) → (t : Bytes) → List Nat
  | left, diagonal :: up :: above, d :: t =>
    let n := if c = d then diagonal else min (min left up) diagonal + 1
    n :: distanceRow c n (up :: above) t
  | _, _, _ => []

/-- The number of bytes to insert, drop or change to get from one text to another. -/
def distance (s t : Bytes) : Nat :=
  (s.foldl (fun row c =>
    let first := row.headD 0 + 1
    first :: distanceRow c first row t) (List.range (t.length + 1))).getLast?.getD 0

/-- Is a command suggested for a name that is not known? -/
def resembles (name command : Bytes) : Bool :=
  let name := Unicode.lower name
  distance name command ≤ 2 || Bytes.startsWith name command

/-- What is said about a name that is not known. -/
def unknownCommandMessage (name : Bytes) : Bytes :=
  let similar := Command.suggested.filter (resembles name)
  utf8 "unknown command " ++ quoted name ++ utf8 " for \"docmark\""
    ++ (if similar.isEmpty then []
      else utf8 "\n\nDid you mean this?\n" ++ similar.flatMap fun c => utf8 "\t" ++ c ++ utf8 "\n")

/-- The command that arguments name, and the arguments without its name. -/
def findCommand (arguments : List Bytes) : Except Bytes (Command × List Bytes) :=
  match firstWord? commonFlags arguments with
  | none => .ok (.top, arguments)
  | some name =>
    match Command.ofName? name with
    | none => .error (unknownCommandMessage name)
    | some c => .ok (c, dropWord commonFlags name arguments)

end Marginalia.CommandLine
