import Abacus.Token

/-!
# Expression trees

A tree keeps the token of every operator, literal and opening parenthesis, so that errors can
point at them. Parentheses are nodes of their own. Trees are also built by hand: then a token need
not fit its node, and a node may hold something that is no expression at all.

Results:
1. `Expr.token_eq_error_iff`: only what is no expression has no token.
2. `Expr.size_pos`: every node counts.
-/

namespace Abacus

/-- The trees of the language. -/
inductive Expr where
  /-- A literal integer; its value need not be the one its token spells. -/
  | integer (token : Token) (value : Int)
  /-- A literal truth value. -/
  | boolean (token : Token) (value : Bool)
  /-- A literal string, without its quotes. -/
  | string (token : Token) (value : String)
  /-- An expression in parentheses; the token is the opening one. -/
  | grouping (token : Token) (inner : Expr)
  /-- An operator in front of its operand. -/
  | unary (token : Token) (operand : Expr)
  /-- An operator between its operands. -/
  | binary (token : Token) (left right : Expr)
  /-- Something that is no expression, known by the name of what it is. -/
  | foreign (typeName : String)
  deriving DecidableEq, Repr

/-- How many calls reading or evaluating may have open at a time. What goes deeper is given up. -/
def callLimit : Nat := 1000

/-- The failure to write or to evaluate something that is no expression. -/
@[ext] structure Foreign where
  typeName : String
  deriving DecidableEq, Repr

/-- What is said of something that is no expression. -/
def Foreign.message (failure : Foreign) : String :=
  "Unsupported expression type: " ++ failure.typeName

namespace Expr

/-- The token that a node was made of; what is no expression has none. -/
def token : Expr → Except Foreign Token
  | .integer token _ | .boolean token _ | .string token _ => .ok token
  | .grouping token _ | .unary token _ | .binary token _ _ => .ok token
  | .foreign typeName => .error ⟨typeName⟩

/-- A count of the nodes of a tree and of the texts between them. -/
def size : Expr → Nat
  | .integer .. | .boolean .. | .string .. | .foreign _ => 1
  | .grouping _ inner => inner.size + 2
  | .unary _ operand => operand.size + 2
  | .binary _ left right => left.size + right.size + 3

/-- Every node counts. -/
theorem size_pos (expr : Expr) : 0 < expr.size := by
  cases expr <;> simp [size]

/-- Only what is no expression has no token. -/
theorem token_eq_error_iff {expr : Expr} {failure : Foreign} :
    expr.token = .error failure ↔ expr = .foreign failure.typeName := by
  cases expr <;> simp [token, Foreign.ext_iff]

end Expr

end Abacus
