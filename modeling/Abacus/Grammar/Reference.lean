import Abacus.Expr.Reader
import Abacus.Grammar.Engine

/-!
# Expressions by the grammar

The second way to an expression: an engine builds a parse tree of the whole source first, and only
then are its literals given values, from left to right, and an expression made of it.

Result: `Engine.reference_eq_mismatch_iff`: what is wrong with a source that has no parse tree is
that it has none, whatever its literals are.
-/

namespace Abacus.Grammar

/-! ## Tokens of lexemes -/

namespace Lexeme

/-- The token of a lexeme as it stands. -/
def token (lexeme : Lexeme) : Token :=
  ⟨lexeme.kind, lexeme.text, lexeme.place.line⟩

/-- The token of a string literal, which leaves out the quotes at both ends. -/
def stringToken (lexeme : Lexeme) : Token :=
  { lexeme.token with lexeme := String.ofList (lexeme.text.toList.drop 1).dropLast }

end Lexeme

/-! ## Expressions of nodes -/

/-- Why no expression is made of the parts of a node. -/
inductive Fault where
  /-- A literal has no value. -/
  | literal (error : ParseError)
  /-- The parts are not those that such a node has. -/
  | malformed
  deriving DecidableEq, Repr

/-- What is said of a fault. -/
def Fault.message : Fault → String
  | .literal (.rejected error) => error.message
  | .literal (.numeralTooLong failure) => failure.message
  | .malformed => ""

/-- Makes an expression of the parts of a node. -/
def makeExpr : Callback Fault Expr
  | .start, [.inr inner] => .ok inner
  | .binary, [.inr left, .inl op, .inr right] => .ok (.binary op.token left right)
  | .unary, [.inl op, .inr operand] => .ok (.unary op.token operand)
  | .grouping, [.inl opening, .inr inner, _] => .ok (.grouping opening.token inner)
  | .integer, [.inl number] => (readInteger number.token).mapError .literal
  | .boolean, [.inl value] => .ok (.boolean value.token (Truth.read value.text))
  | .string, [.inl value] => .ok (.string value.stringToken value.stringToken.lexeme)
  | _, _ => .error .malformed

/-! ## Expressions of sources -/

/-- Why the grammar gives a source text no expression. -/
inductive Failure where
  | mismatch (mismatch : Mismatch)
  /-- A literal of the parse tree is rejected, as the other parser rejects it. -/
  | rejected (error : SyntaxError)
  /-- Anything else went wrong at a node. -/
  | fault (rule : Rule) (fault : Fault)
  /-- The parse tree is too deep to be transformed. -/
  | exhausted
  /-- The parse tree is transformed to something that is no expression. -/
  | malformed
  deriving DecidableEq, Repr

/-- What is said of a fault at a node. -/
def faultMessage (rule : Rule) (fault : Fault) : String :=
  "Error trying to process rule \"" ++ rule.name ++ "\":\n\n" ++ fault.message

/-- What a transformation comes to. Rejected literals are taken out of the fault they caused. -/
def conclude : Except (Interruption Fault) (Lexeme ⊕ Expr) → Except Failure Expr
  | .ok (.inr expr) => .ok expr
  | .ok (.inl _) => .error .malformed
  | .error (.fault _ (.literal (.rejected error))) => .error (.rejected error)
  | .error (.fault rule fault) => .error (.fault rule fault)
  | .error .exhausted => .error .exhausted

namespace Engine

variable (engine : Engine)

/-- The expression that the grammar gives a source text. -/
def reference (source : String) : Except Failure Expr :=
  match engine.parse source with
  | .error mismatch => .error (.mismatch mismatch)
  | .ok tree => conclude (engine.transform makeExpr tree)

variable {engine}

/-- Without a parse tree there is no expression, whatever the literals are. -/
theorem reference_of_mismatch {source : String} {mismatch : Mismatch}
    (h : engine.parse source = .error mismatch) :
    engine.reference source = .error (.mismatch mismatch) := by
  rw [reference, h]

/-- With a parse tree, it depends on what the tree is transformed to. -/
theorem reference_of_tree {source : String} {tree : Tree} (h : engine.parse source = .ok tree) :
    engine.reference source = conclude (engine.transform makeExpr tree) := by
  rw [reference, h]

/-- Only where there is no parse tree, that is why there is no expression. -/
theorem reference_eq_mismatch_iff {source : String} {mismatch : Mismatch} :
    engine.reference source = .error (.mismatch mismatch) ↔
      engine.parse source = .error mismatch := by
  refine ⟨fun failed => ?_, reference_of_mismatch⟩
  cases parsed : engine.parse source with
  | error found =>
    cases (reference_of_mismatch parsed).symm.trans failed
    rfl
  | ok tree =>
    rw [reference_of_tree parsed] at failed
    unfold conclude at failed
    split at failed <;> cases failed

end Engine

end Abacus.Grammar
