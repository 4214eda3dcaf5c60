import Abacus.Expr
import Abacus.Expr.SyntaxError
import Abacus.Operator
import Abacus.Text.Truth

/-!
# Readers of phrases

A reader takes a phrase off the front of the pending tokens, with one token of lookahead. It answers
with what it read or why it failed, and with the tokens it left, which are the end of the tokens it
was given: nothing is read twice or put back.
-/

namespace Abacus

/-! ## Readers -/

/-- What came of reading from the pending tokens, and the tokens that are left. -/
structure Step (pending : List Token) where
  outcome : Except ParseError Expr
  rest : List Token
  rest_suffix : rest <:+ pending

/-- Reads one phrase from the front of the pending tokens. -/
abbrev Reader := (pending : List Token) → Step pending

namespace Step

/-- Fails at a token without moving past it. -/
def reject (cause : SyntaxError.Cause) (found : Token) (pending : List Token) : Step pending :=
  ⟨.error (.rejected ⟨cause, found⟩), pending, List.suffix_refl pending⟩

/-- The same result and the same rest, seen from one token earlier. -/
def after {pending : List Token} (token : Token) (step : Step pending) :
    Step (token :: pending) :=
  ⟨step.outcome, step.rest, step.rest_suffix.trans (List.suffix_cons token pending)⟩

/-- The same rest with a node built on top of what was read. -/
def map {pending : List Token} (build : Expr → Expr) (step : Step pending) : Step pending :=
  { step with outcome := step.outcome.map build }

end Step

/-! ## Literals and parentheses -/

/-- The value of an integer literal, which has to fit and must not be too long. -/
def readInteger (token : Token) : Except ParseError Expr :=
  match Numeral.read token.lexeme.toList with
  | .error failure => .error (.numeralTooLong failure)
  | .ok value =>
    if Integer.greatest < value then .error (.rejected ⟨.integerOutOfRange, token⟩)
    else .ok (.integer token value)

/-- Takes the closing parenthesis after what was read inside. -/
def closeGroup (last opening : Token) {pending : List Token} (step : Step pending) :
    Step pending :=
  match step with
  | ⟨.error error, rest, suffix⟩ => ⟨.error error, rest, suffix⟩
  | ⟨.ok _, [], suffix⟩ => ⟨.error (.rejected ⟨.missingParen, last⟩), [], suffix⟩
  | ⟨.ok inner, token :: rest, suffix⟩ =>
    if token.kind = .rightParen then
      ⟨.ok (.grouping opening inner), rest, (List.suffix_cons token rest).trans suffix⟩
    else
      ⟨.error (.rejected ⟨.missingParen, token⟩), token :: rest, suffix⟩

/-- A literal, or an expression in parentheses if the allowance leaves a reader for it. An integer
literal is passed over even if its value is refused. -/
def primary (last : Token) (inner? : Option Reader) : Reader
  | [] => .reject .missingExpression last []
  | token :: rest =>
    match token.kind with
    | .integerLiteral => ⟨readInteger token, rest, List.suffix_cons token rest⟩
    | .booleanLiteral =>
      ⟨.ok (.boolean token (Truth.read token.lexeme)), rest, List.suffix_cons token rest⟩
    | .stringLiteral => ⟨.ok (.string token token.lexeme), rest, List.suffix_cons token rest⟩
    | .leftParen =>
      match inner? with
      | none => .reject .nestedTooDeeply token (token :: rest)
      | some inner => (closeGroup last token (inner rest)).after token
    | _ => .reject .missingExpression token (token :: rest)

/-! ## Binary levels -/

/-- Goes on with operators of a level as long as they follow, folding to the left. -/
def chain (level : Level) (operand : Reader) {all : List Token} (left : Expr)
    (pending : List Token) (suffix : pending <:+ all) : Step all :=
  match pending with
  | [] => ⟨.ok left, [], suffix⟩
  | token :: rest =>
    if token.kind.level? = some level then
      match operand rest with
      | ⟨.error error, leftOver, within⟩ =>
        ⟨.error error, leftOver, within.trans ((List.suffix_cons token rest).trans suffix)⟩
      | ⟨.ok right, leftOver, within⟩ =>
        chain level operand (.binary token left right) leftOver
          (within.trans ((List.suffix_cons token rest).trans suffix))
    else
      ⟨.ok left, token :: rest, suffix⟩
termination_by pending.length
decreasing_by
  have := within.length_le
  simp only [List.length_cons]
  omega

/-- An operand and the operators of a level that follow it. -/
def folded (level : Level) (operand : Reader) : Reader := fun pending =>
  match operand pending with
  | ⟨.error error, rest, suffix⟩ => ⟨.error error, rest, suffix⟩
  | ⟨.ok left, rest, suffix⟩ => chain level operand left rest suffix

/-- The reader of a level over the reader of unary expressions. -/
def Level.reader (operand : Reader) : Level → Reader
  | .factor => folded .factor operand
  | .term => folded .term (folded .factor operand)
  | .comparison => folded .comparison (folded .term (folded .factor operand))
  | .equality =>
    folded .equality (folded .comparison (folded .term (folded .factor operand)))

/-! ## Where levels stop -/

end Abacus
