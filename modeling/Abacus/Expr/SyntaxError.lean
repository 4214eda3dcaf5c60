import Abacus.Integer
import Abacus.Token

/-!
# Errors of reading an expression

A source text that is no expression is rejected at one token, for one cause. Apart from that, a
numeral may be too long to have a value at all.
-/

namespace Abacus

/-- Why a source text is rejected at a token. -/
inductive SyntaxError.Cause where
  /-- A literal, an operator in front of an operand or an opening parenthesis should stand here. -/
  | missingExpression
  /-- An expression in parentheses goes on without a closing one. -/
  | missingParen
  /-- The source goes on after a complete expression. -/
  | trailingToken
  /-- An integer literal is too large. -/
  | integerOutOfRange
  /-- Parentheses and unary operators are nested too deeply. -/
  | nestedTooDeeply
  deriving DecidableEq, Repr

/-- A cause for rejecting a source text, and the token it was rejected at. -/
structure SyntaxError where
  cause : SyntaxError.Cause
  found : Token
  deriving DecidableEq, Repr

namespace SyntaxError

/-- What should have stood in place of the rejected token. -/
def Cause.expected : Cause → String
  | .missingExpression => "expression"
  | .missingParen => "')' after expression"
  | .trailingToken => "end of input"
  | .integerOutOfRange =>
    "integer literal between " ++ Numeral.decimal Integer.least ++ " and "
      ++ Numeral.decimal Integer.greatest
  | .nestedTooDeeply => "expression nested less deeply"

/-- Where the source was rejected, what was expected there and what was found. -/
def message (error : SyntaxError) : String :=
  error.found.report
    ("Expected " ++ error.cause.expected ++ ", but '" ++ error.found.lexeme ++ "' was found")

end SyntaxError

/-- Why a source text has no tree. -/
inductive ParseError where
  | rejected (error : SyntaxError)
  | numeralTooLong (failure : Numeral.TooLong)
  deriving DecidableEq, Repr

/-- What is said of a source text that has no tree. -/
def ParseError.message : ParseError → String
  | .rejected error => error.message
  | .numeralTooLong failure => failure.message

end Abacus
