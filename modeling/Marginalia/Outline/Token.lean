import Marginalia.Outline.Literal

/-!
# Tokens of Go

A text of Go becomes a list of tokens.  A line that ends after a token that can
end a statement gets a semicolon; so does a block comment that runs over the end
of such a line.  A text that is not properly encoded, or has a byte order mark
past its beginning, has no tokens.

Comments are not tokens.  A token knows the lead comment in front of it: the last
of the groups of comments before it, if that group ends on the line before the
token.  Comments that follow one another without an empty line form a group; those
that stand on the line of the token before them form a group of their own.
-/

namespace Marginalia.Outline

set_option autoImplicit false

/-- What a token is. -/
inductive Kind where
  | name (text : Bytes)
  /-- a literal; `isText` tells those of texts from those of numbers and characters -/
  | literal (isText : Bool)
  | keyword (text : String)
  | sign (text : String)
  | semicolon
  | eof
  deriving DecidableEq, Repr, Inhabited

/-- A token with the offsets of its bounds, and the offset of its lead comment. -/
structure Token where
  kind : Kind
  start : Nat
  stop : Nat
  lead : Option Nat := none
  deriving DecidableEq, Repr, Inhabited

/-- The keywords. -/
def keywords : List String :=
  ["break", "case", "chan", "const", "continue", "default", "defer", "else", "fallthrough", "for",
   "func", "go", "goto", "if", "import", "interface", "map", "package", "range", "return", "select",
   "struct", "switch", "type", "var"]

/-- The opening brace. -/
def lbrace : String := "\x7b"

/-- The closing brace. -/
def rbrace : String := "\x7d"

/-- The signs, longer ones before those they start with. -/
def signs : List String :=
  ["<<=", ">>=", "&^=", "...", "&&", "||", "<-", "++", "--", "==", "!=", "<=", ">=", ":=", "+=", "-=",
   "*=", "/=", "%=", "&=", "|=", "^=", "<<", ">>", "&^", "+", "-", "*", "/", "%", "&", "|", "^", "<",
   ">", "=", "!", "~", "(", ")", "[", "]", lbrace, rbrace, ",", ".", ":"]

/-- Does the end of the line after a token end a statement? -/
def Kind.endsStatement : Kind → Bool
  | .name _ => true
  | .literal _ => true
  | .keyword k => ["break", "continue", "fallthrough", "return"].contains k
  | .sign s => [")", "]", rbrace, "++", "--"].contains s
  | .semicolon => false
  | .eof => false

/-! ## Reading one token -/

/-- The token at the beginning of a text that starts with `c`, and its characters. -/
def readToken (c : Char) (rest : List Char) : Option (Kind × List Char) :=
  let cs := c :: rest
  if isNameStart c then
    let name := cs.takeWhile isNamePart
    let kind := match keywords.find? fun k => k.toList = name with
      | some k => Kind.keyword k
      | none => Kind.name (Utf8.ofChars name)
    some (kind, name)
  else if isDecimal c || (c == '.' && rest.head?.elim false isDecimal) then
    (number? cs).map (Kind.literal false, ·)
  else if c == '\x22' then (textRest? 0 rest).map fun t => (.literal true, c :: t)
  else if c == '\x27' then (charRest? rest).map fun t => (.literal false, c :: t)
  else if c.toNat == 96 then (rawRest? rest).map fun t => (.literal true, c :: t)
  else if c == ';' then some (.semicolon, [c])
  else
    (signs.find? fun s => s.toList.isPrefixOf cs).map fun s => (.sign s, s.toList)

/-! ## Reading all tokens -/

/-- A place in the text. -/
structure Reader where
  rest : List Char
  offset : Nat := 0
  line : Nat := 1
  /-- is this the beginning of a line? -/
  fresh : Bool := true
  deriving DecidableEq, Repr, Inhabited

/-- The place after the given characters, which stand here. -/
def Reader.pass (r : Reader) (cs : List Char) : Reader where
  rest := r.rest.drop cs.length
  offset := r.offset + cs.foldl (fun n c => n + c.utf8Size) 0
  line := r.line + cs.count '\n'
  fresh := cs.getLast?.elim r.fresh (· == '\n')

/-- A comment, with its offset and its first and last line. -/
structure Remark where
  start : Nat
  line : Nat
  lastLine : Nat
  deriving DecidableEq, Repr, Inhabited

/-- A token on a line, or a comment. -/
inductive Element where
  | token (t : Token) (line : Nat)
  | remark (c : Remark)
  deriving DecidableEq, Repr, Inhabited

/-- The comment at the beginning, with its characters; nothing if it is not closed. -/
def readRemark? (cs : List Char) : Option (Option (List Char)) :=
  match cs with
  | '/' :: '/' :: _ => some (some (cs.takeWhile (· ≠ '\n')))
  | '/' :: '*' :: rest => some ((blockRest? rest).map ('/' :: '*' :: ·))
  | _ => none

/-- Tokens and comments from here on.  `pending` tells that a token before may end a statement.  Each
round passes at least one character, so the number of characters bounds the rounds. -/
def elementsFrom : (fuel : Nat) → (r : Reader) → (pending : Bool) → Option (List Element)
  | 0, _, _ => none
  | fuel + 1, r, pending =>
    match r.rest with
    | [] =>
      let eof := Element.token ⟨.eof, r.offset, r.offset, none⟩ r.line
      some (if pending then [.token ⟨.semicolon, r.offset, r.offset, none⟩ r.line, eof] else [eof])
    | c :: rest =>
      if c == '\n' && pending then
        (elementsFrom fuel (r.pass [c]) false).map
          (.token ⟨.semicolon, r.offset, r.offset + 1, none⟩ r.line :: ·)
      else if c == ' ' || c == '\t' || c == '\n' || c == '\r' then
        elementsFrom fuel (r.pass [c]) pending
      else
        match readRemark? r.rest with
        | some none => none
        | some (some comment) =>
          let after := r.pass comment
          let remark := Element.remark ⟨r.offset, r.line, after.line⟩
          if !commentOk r.fresh comment then none
          else if pending && after.line != r.line then
            (elementsFrom fuel after false).map fun es =>
              remark :: .token ⟨.semicolon, r.offset, r.offset, none⟩ r.line :: es
          else (elementsFrom fuel after pending).map (remark :: ·)
        | none =>
          match readToken c rest with
          | none => none
          | some (kind, cs) =>
            let after := r.pass cs
            (elementsFrom fuel after kind.endsStatement).map
              (.token ⟨kind, r.offset, after.offset, none⟩ r.line :: ·)

/-! ## Lead comments -/

/-- Passes over comments as long as each starts on the line on which the one before ends. -/
def sameLine : (line : Nat) → List Remark → List Remark
  | _, [] => []
  | line, c :: rest => if c.line ≤ line then sameLine c.lastLine rest else c :: rest

/-- The last group of comments: the offset of its first and the last line of its last comment. -/
def lastGroup : (group : Option (Nat × Nat)) → List Remark → Option (Nat × Nat)
  | group, [] => group
  | none, c :: rest => lastGroup (some (c.start, c.lastLine)) rest
  | some (start, line), c :: rest =>
    lastGroup (some (if c.line ≤ line + 1 then start else c.start, c.lastLine)) rest

/-- The lead comment of a token on `line`, given the line of the token before it and the comments
between the two. -/
def leadOf (before line : Nat) (remarks : List Remark) : Option Nat :=
  let remarks := match remarks with
    | [] => []
    | c :: _ => if c.line = before then sameLine c.line remarks else remarks
  match lastGroup none remarks with
  | some (start, last) => if last + 1 = line then some start else none
  | none => none

/-- Gives each token its lead comment; `remarks` are the comments since the token before, last
first. -/
def attach : (before : Nat) → (remarks : List Remark) → List Element → List Token
  | _, _, [] => []
  | before, remarks, .remark c :: rest => attach before (c :: remarks) rest
  | before, remarks, .token t line :: rest =>
    { t with lead := leadOf before line remarks.reverse } :: attach line [] rest

/-! ## The tokens of a text -/

/-- The byte order mark, which is allowed at the very beginning only. -/
def orderMark : Char := '\uFEFF'

/-- The tokens of a text, if it is well formed. -/
def tokens? (content : Bytes) : Option (List Token) :=
  if !Utf8.valid content then none
  else
    let cs := Utf8.chars content
    let start : Reader := match cs with
      | c :: rest => if c = orderMark then { rest, offset := 3, fresh := false } else { rest := cs }
      | [] => { rest := [] }
    if start.rest.any fun c => c = orderMark ∨ c.toNat = 0 then none
    else (elementsFrom (start.rest.length + 1) start false).map (attach 0 [])

end Marginalia.Outline
