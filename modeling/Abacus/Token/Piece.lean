import Abacus.Text.Word
import Abacus.Token

/-!
# One token of a text

The token at the front of a text is as long as it can be. Every text has one: a character outside
the language is a token of its own.

Result: `Piece.read_length`: a token uses up at least one character.
-/

namespace Abacus

open Text

/-- A token taken off the front of a text, and what follows it. The lexeme of a string literal
leaves out the quotes. -/
structure Piece where
  kind : Token.Kind
  lexeme : List Char
  rest : List Char
  deriving DecidableEq, Repr

namespace Piece

/-- Three words have a meaning of their own; all others are identifiers. -/
def wordKind (word : List Char) : Token.Kind :=
  if word = ['i', 'f'] then .ifWord
  else if word = ['t', 'r', 'u', 'e'] || word = ['f', 'a', 'l', 's', 'e'] then .booleanLiteral
  else .identifier

/-- The tokens of one character that no second character can extend. -/
def simpleKind? : Char → Option Token.Kind
  | '-' => some .minus
  | '+' => some .plus
  | '*' => some .star
  | '/' => some .slash
  | '(' => some .leftParen
  | ')' => some .rightParen
  | '\x7b' => some .leftBrace
  | '\x7d' => some .rightBrace
  | ';' => some .semicolon
  | _ => none

/-- The characters that an equals sign extends: their kind alone, and their kind with it. -/
def extensibleKinds? : Char → Option (Token.Kind × Token.Kind)
  | '=' => some (.assignment, .equals)
  | '!' => some (.bang, .bangEquals)
  | '<' => some (.smaller, .smallerEquals)
  | '>' => some (.greater, .greaterEquals)
  | _ => none

/-- A token of operator or punctuation characters, or of one character outside the language. -/
def readSymbol (head : Char) (tail : List Char) : Piece :=
  match simpleKind? head with
  | some kind => ⟨kind, [head], tail⟩
  | none =>
    match extensibleKinds? head, tail with
    | some (_, extended), '=' :: rest => ⟨extended, [head, '='], rest⟩
    | some (alone, _), _ => ⟨alone, [head], tail⟩
    | none, _ => ⟨.invalidToken, [head], tail⟩

/-- The token at the front of a text that starts with no white space. An integer literal is a run of
the ten digits of ASCII. A string literal runs to the
next quote, or to the end of the text if there is none. -/
def read (head : Char) (tail : List Char) : Piece :=
  if head.isDigit then
    ⟨.integerLiteral, head :: tail.takeWhile Char.isDigit, tail.dropWhile Char.isDigit⟩
  else if isWordStart head then
    let word := head :: tail.takeWhile isWordPart
    ⟨wordKind word, word, tail.dropWhile isWordPart⟩
  else if isQuote head then
    ⟨.stringLiteral, tail.takeWhile (!isQuote ·), (tail.dropWhile (!isQuote ·)).drop 1⟩
  else
    readSymbol head tail

/-- A symbol uses up at least one character. -/
theorem readSymbol_length (head : Char) (tail : List Char) :
    (readSymbol head tail).rest.length ≤ tail.length := by
  unfold readSymbol
  split
  · simp
  · split <;> simp

/-- A token uses up at least one character. -/
theorem read_length (head : Char) (tail : List Char) :
    (read head tail).rest.length ≤ tail.length := by
  unfold read
  split
  · exact (List.dropWhile_suffix _).length_le
  split
  · exact (List.dropWhile_suffix _).length_le
  split
  · exact ((List.drop_suffix _ _).trans (List.dropWhile_suffix _)).length_le
  · exact readSymbol_length head tail

end Piece

end Abacus
