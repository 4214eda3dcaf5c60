import Abacus.Expr.Reader
import Abacus.Token.Stream

/-!
# Phrases of the language

Expressions are read by descent. Each level of binary operators reads operands of the next tighter
level and folds them to the left; below the tightest stand unary operators, which nest to the right,
and below them literals and parentheses.

A chain of operators may have any length. Only parentheses and unary operators nest, and they share
an allowance of calls. An expression in parentheses starts all levels anew, which takes eleven
calls: one for each of the seven phrases that can be read, and one for the loop of each of the four
levels. A unary operator takes one.

Results:
1. `Phrase.read_pending`: reading a phrase only ever moves forward.
2. `TokenStream.parse_pending`: so does reading a whole source.
-/

namespace Abacus

/-! ## Nesting -/

/-- The allowance of calls that a phrase starts with. -/
def nestingAllowance : Nat := callLimit

/-- What a parenthesis takes of the allowance. -/
def groupCost : Nat := 11

/-- Unary operators and what they apply to. -/
def unary (last : Token) (allowance : Nat) : Reader
  | [] => primary last none []
  | token :: rest =>
    if token.kind.unaryOp?.isSome then
      if _ : 0 < allowance then
        ((unary last (allowance - 1) rest).map (.unary token)).after token
      else
        .reject .nestedTooDeeply token (token :: rest)
    else
      let inner? : Option Reader :=
        if _ : groupCost ≤ allowance then
          some (Level.reader (unary last (allowance - groupCost)) .equality)
        else none
      primary last inner? (token :: rest)
termination_by allowance
decreasing_by
  · omega
  · have : 0 < groupCost := by decide
    omega

/-! ## Phrases -/

/-- What can be read from a stream. -/
inductive Phrase where
  | level (own : Level)
  | unary
  | primary
  deriving DecidableEq, Repr

namespace Phrase

/-- An expression starts at the loosest level. -/
def expression : Phrase := .level Level.equality

/-- The reader of a phrase, with the whole allowance for nesting. -/
def reader (last : Token) : Phrase → Reader
  | .level own => own.reader (Abacus.unary last nestingAllowance)
  | .unary => Abacus.unary last nestingAllowance
  | .primary =>
    Abacus.primary last
      (some (Level.reader (Abacus.unary last (nestingAllowance - groupCost)) .equality))

/-- Reads a phrase from a stream. -/
def read (phrase : Phrase) (stream : TokenStream) : Except ParseError Expr × TokenStream :=
  let step := phrase.reader stream.last stream.pending
  (step.outcome, { stream with pending := step.rest })

/-- Reading a phrase only ever moves forward. -/
theorem read_pending (phrase : Phrase) (stream : TokenStream) :
    (phrase.read stream).2.pending <:+ stream.pending :=
  (phrase.reader stream.last stream.pending).rest_suffix

end Phrase

/-- Reads an expression that has to be all there is in the stream. -/
def TokenStream.parse (stream : TokenStream) : Except ParseError Expr × TokenStream :=
  match Phrase.expression.read stream with
  | (.error error, after) => (.error error, after)
  | (.ok expr, after) =>
    if after.current.kind = .endOfFile then (.ok expr, after)
    else (.error (.rejected ⟨.trailingToken, after.current⟩), after)

/-- Reading a whole source only ever moves forward. -/
theorem TokenStream.parse_pending (stream : TokenStream) :
    stream.parse.2.pending <:+ stream.pending := by
  have forward := Phrase.expression.read_pending stream
  unfold parse
  split
  · rename_i failed
    rwa [failed] at forward
  · rename_i read
    rw [read] at forward
    split <;> exact forward

/-- The tree of a source text. -/
def parse (source : String) : Except ParseError Expr :=
  (TokenStream.ofSource source).parse.1

end Abacus
