import Marginalia.Text.Decimal

/-!
# Styles of text on a terminal

A style is a list of attributes, each a number.  A styled text stands between two
control sequences, the second of which takes the attributes back.
-/

namespace Marginalia

set_option autoImplicit false

/-- The attributes of a style. -/
structure Style where
  attributes : List Nat
  deriving DecidableEq, Repr, Inhabited

namespace Style

def bold : Style := ⟨[1]⟩
def red : Style := ⟨[31]⟩
def redBold : Style := ⟨[31, 1]⟩
def green : Style := ⟨[32]⟩
def greenBold : Style := ⟨[32, 1]⟩
def yellow : Style := ⟨[33]⟩
def yellowBold : Style := ⟨[33, 1]⟩
def blue : Style := ⟨[34]⟩
def blueBold : Style := ⟨[34, 1]⟩
def magentaBold : Style := ⟨[35, 1]⟩
def cyan : Style := ⟨[36]⟩
def cyanBold : Style := ⟨[36, 1]⟩

/-- The attribute that takes another back. -/
def undo (n : Nat) : Nat := if n = 1 then 22 else 0

/-- A control sequence. -/
def sequence (attributes : List Nat) : Bytes :=
  [27, 91] ++ Bytes.join (utf8 ";") (attributes.map Decimal.nat) ++ utf8 "m"

/-- A text in a style, if styles are on. -/
def paint (on : Bool) (s : Style) (text : Bytes) : Bytes :=
  if on then sequence s.attributes ++ text ++ sequence (s.attributes.map undo) else text

end Style

end Marginalia
