import Marginalia.CommandLine.Literal

/-!
# Flags

A flag is given as `--name value`, as `--name=value` or, if it is a truth value, as
`--name`.  Flags and other arguments may come in any order; after `--` there are no
more flags.  A flag that is given more than once has its last value.
-/

namespace Marginalia.CommandLine

set_option autoImplicit false

/-- What the value of a flag is. -/
inductive FlagKind where
  | text
  | int
  | bool
  deriving DecidableEq, Repr, Inhabited

/-- A flag. -/
structure Flag where
  name : Bytes
  kind : FlagKind
  /-- a letter that may stand for the name -/
  letter : Option UInt8 := none
  deriving DecidableEq, Repr, Inhabited

/-- The value of a flag. -/
inductive FlagValue where
  | text (s : Bytes)
  | int (n : Int)
  | bool (b : Bool)
  deriving DecidableEq, Repr, Inhabited

/-- Why arguments cannot be read. -/
inductive FlagError where
  | badSyntax (argument : Bytes)
  | unknownName (name : Bytes)
  | unknownLetter (letter : UInt8) (letters : Bytes)
  | noValue (name : Bytes)
  | badValue (flag : Flag) (value : Bytes) (error : LiteralError)
  deriving DecidableEq, Repr, Inhabited

namespace Flag

/-- May the value of a flag be left out? -/
def isBool (f : Flag) : Bool := f.kind = .bool

/-- A flag as it is named in messages. -/
def display (f : Flag) : Bytes :=
  match f.letter with
  | some c => utf8 "-" ++ [c] ++ utf8 ", --" ++ f.name
  | none => utf8 "--" ++ f.name

/-- Reads the value of a flag. -/
def value (f : Flag) (text : Bytes) : Except FlagError FlagValue :=
  match f.kind with
  | .text => .ok (.text text)
  | .int => ((int text).map FlagValue.int).mapError (FlagError.badValue f text)
  | .bool => ((bool text).map FlagValue.bool).mapError (FlagError.badValue f text)

end Flag

namespace FlagError

/-- A letter in apostrophes. -/
def quotedLetter (b : UInt8) : Bytes :=
  let c := Char.ofNat b.toNat
  utf8 "'" ++ (if c = '\x27' then utf8 "\\'" else if c = '\x22' then [b] else Quoted.escapeChar c)
    ++ utf8 "'"

/-- The words for it. -/
def message : FlagError → Bytes
  | .badSyntax argument => utf8 "bad flag syntax: " ++ argument
  | .unknownName name => utf8 "unknown flag: --" ++ name
  | .unknownLetter letter letters =>
    utf8 "unknown shorthand flag: " ++ quotedLetter letter ++ utf8 " in -" ++ letters
  | .noValue name => utf8 "flag needs an argument: --" ++ name
  | .badValue flag value error =>
    utf8 "invalid argument " ++ quoted value ++ utf8 " for " ++ quoted flag.display ++ utf8 " flag: strconv."
      ++ utf8 (if flag.isBool then "ParseBool" else "ParseInt") ++ utf8 ": parsing " ++ quoted value
      ++ utf8 ": " ++ error.message

end FlagError

/-! ## Reading arguments -/

/-- What was read: the flags that were given, last first, and the other arguments. -/
structure Given where
  flags : List (Bytes × FlagValue) := []
  arguments : List Bytes := []
  deriving DecidableEq, Repr, Inhabited

namespace Given

/-- The value that was given to a flag. -/
def value? (g : Given) (name : String) : Option FlagValue :=
  (g.flags.find? fun f => f.1 = utf8 name).map Prod.snd

/-- The text that was given to a flag. -/
def text? (g : Given) (name : String) : Option Bytes :=
  match g.value? name with
  | some (.text s) => some s
  | _ => none

/-- The number that was given to a flag. -/
def int? (g : Given) (name : String) : Option Int :=
  match g.value? name with
  | some (.int n) => some n
  | _ => none

/-- The truth value that was given to a flag. -/
def bool? (g : Given) (name : String) : Option Bool :=
  match g.value? name with
  | some (.bool b) => some b
  | _ => none

/-- Adds a flag. -/
def setFlag (g : Given) (f : Flag) (text : Bytes) : Except FlagError Given := do
  let v ← f.value text
  return { g with flags := (f.name, v) :: g.flags }

/-- Adds an argument that is no flag. -/
def push (g : Given) (argument : Bytes) : Given := { g with arguments := g.arguments ++ [argument] }

end Given

/-- A text up to the first equals sign, and what follows it. -/
def splitEquals (s : Bytes) : Bytes × Option Bytes :=
  match Bytes.cut (utf8 "=") s with
  | some (name, value) => (name, some value)
  | none => (s, none)

/-- Reads letters after a single dash, all of which are flags without a value, or the last of which
has a value. -/
def readLetters (flags : List Flag) (g : Given) : Bytes → Except FlagError Given
  | [] => .ok g
  | letter :: rest =>
    if Bytes.startsWith (utf8 "test.") (letter :: rest) then .ok g
    else
      match flags.find? fun f => f.letter = some letter with
      | none => .error (.unknownLetter letter (letter :: rest))
      | some f =>
        match rest with
        | 61 :: v :: value => g.setFlag f (v :: value)
        | _ => do
          let g ← g.setFlag f (utf8 "true")
          readLetters flags g rest

/-- Reads arguments.  Only truth values have letters. -/
def read (flags : List Flag) (g : Given) : List Bytes → Except FlagError Given
  | [] => .ok g
  | argument :: rest =>
    match argument with
    | 45 :: 45 :: [] => .ok { g with arguments := g.arguments ++ rest }
    | 45 :: 45 :: name =>
      if name.head? = some 45 || name.head? = some 61 then .error (.badSyntax argument)
      else
        match flags.find? fun f => f.name = (splitEquals name).1 with
        | none => .error (.unknownName (splitEquals name).1)
        | some f =>
          match (splitEquals name).2, rest with
          | some value, rest => do
            let g ← g.setFlag f value
            read flags g rest
          | none, rest =>
            if f.isBool then do
              let g ← g.setFlag f (utf8 "true")
              read flags g rest
            else
              match rest with
              | [] => .error (.noValue f.name)
              | value :: rest => do
                let g ← g.setFlag f value
                read flags g rest
    | 45 :: letter :: letters => do
      let g ← readLetters flags g (letter :: letters)
      read flags g rest
    | _ => read flags (g.push argument) rest

end Marginalia.CommandLine
