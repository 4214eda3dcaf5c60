import Abacus.Grammar.Terminal

/-!
# Lexemes of a source text

A lexeme is the text of a terminal at a place. Between lexemes there may be white space.
-/

namespace Abacus.Grammar

/-! ## Places -/

/-- A place in a source text: the characters before it, its line, and its column in the line. Lines
and columns are counted from one. -/
structure Place where
  offset : Nat := 0
  line : Nat := 1
  column : Nat := 1
  deriving DecidableEq, Repr

namespace Place

/-- The place after a character. -/
def step (place : Place) (c : Char) : Place :=
  if c = '\n' then ⟨place.offset + 1, place.line + 1, 1⟩
  else ⟨place.offset + 1, place.line, place.column + 1⟩

/-- The place after some text. -/
def advance (place : Place) (text : List Char) : Place :=
  text.foldl step place

end Place

/-- The text of a terminal at a place. -/
structure Lexeme where
  kind : Token.Kind
  text : String
  place : Place
  deriving DecidableEq, Repr

/-- The white space that the grammar passes over. -/
def isSpace (c : Char) : Bool :=
  c == ' ' || c == '\t' || c == '\x0c' || c == '\x0d' || c == '\n'

end Abacus.Grammar
