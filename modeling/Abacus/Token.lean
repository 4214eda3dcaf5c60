import Abacus.Text.Numeral

/-!
# Tokens

A token is a kind, the text it was read from and the line it starts on. The end of the source is
a token too, so that every place an error can point at has one.
-/

namespace Abacus

/-- What a token is. A dot is a kind of its own although no source text has one. -/
inductive Token.Kind where
  | semicolon | leftParen | rightParen | leftBrace | rightBrace | bang
  | minus | plus | star | slash | dot
  | assignment | equals | bangEquals | greater | greaterEquals | smaller | smallerEquals
  | ifWord
  | identifier
  | integerLiteral | stringLiteral | booleanLiteral
  | invalidToken | endOfFile
  deriving DecidableEq, Repr

/-- A kind, the text of the token and the line of its first character. Lines are counted from one
in a source text; a token made by hand may stand on any line. -/
structure Token where
  kind : Token.Kind
  lexeme : String
  line : Int := 1
  deriving DecidableEq, Repr

namespace Token

/-! ## Names of kinds -/

namespace Kind

/-- Every kind, in the order of declaration. -/
def all : List Kind :=
  [.semicolon, .leftParen, .rightParen, .leftBrace, .rightBrace, .bang, .minus, .plus, .star,
    .slash, .dot, .assignment, .equals, .bangEquals, .greater, .greaterEquals, .smaller,
    .smallerEquals, .ifWord, .identifier, .integerLiteral, .stringLiteral, .booleanLiteral,
    .invalidToken, .endOfFile]

/-- The name of a kind, words joined by an underscore. -/
def name : Kind → String
  | .semicolon => "semicolon"
  | .leftParen => "left_paren"
  | .rightParen => "right_paren"
  | .leftBrace => "left_brace"
  | .rightBrace => "right_brace"
  | .bang => "bang"
  | .minus => "minus"
  | .plus => "plus"
  | .star => "star"
  | .slash => "slash"
  | .dot => "dot"
  | .assignment => "assignment"
  | .equals => "equals"
  | .bangEquals => "bang_equals"
  | .greater => "greater"
  | .greaterEquals => "greater_equals"
  | .smaller => "smaller"
  | .smallerEquals => "smaller_equals"
  | .ifWord => "if"
  | .identifier => "identifier"
  | .integerLiteral => "integer_literal"
  | .stringLiteral => "string_literal"
  | .booleanLiteral => "boolean_literal"
  | .invalidToken => "invalid_token"
  | .endOfFile => "eof"

end Kind

/-! ## Where a token is -/

/-- Errors name the line of a token, and the end of the source as such. The line is written out
whatever it is: no text has so many lines that their number would be too long. -/
def location (token : Token) : String :=
  match token.kind with
  | .endOfFile => "end of file"
  | _ => "line " ++ Numeral.decimal token.line

/-- The text of an error at a token: where it is and what is wrong there. -/
def report (token : Token) (problem : String) : String :=
  "Error at " ++ token.location ++ ": " ++ problem

end Token

end Abacus
