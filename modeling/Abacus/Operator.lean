import Abacus.Token

/-!
# Operators

The operators of the language, the kinds of token that stand for them, and the levels that say
how tightly the binary ones bind.

Results:
1. `Token.Kind.binaryOp?_kind` and `BinaryOp.kind_of_binaryOp?`: each binary operator has exactly
   one kind of token.
2. `UnaryOp.kind_of_unaryOp?`: a kind stands for no other unary operator than the one with that
   kind.
-/

namespace Abacus

/-- The operators in front of one operand. -/
inductive UnaryOp where
  | not | negate
  deriving DecidableEq, Repr

/-- Operators from two integers to an integer. -/
inductive Arithmetic where
  | add | subtract | multiply | divide
  deriving DecidableEq, Repr

/-- Operators that order two integers. -/
inductive Comparison where
  | greater | greaterOrEqual | smaller | smallerOrEqual
  deriving DecidableEq, Repr

/-- Operators that tell two values of one type apart or not. -/
inductive Equality where
  | equal | unequal
  deriving DecidableEq, Repr

/-- The operators between two operands. -/
inductive BinaryOp where
  | arithmetic (op : Arithmetic)
  | comparison (op : Comparison)
  | equality (op : Equality)
  deriving DecidableEq, Repr

/-- The levels of binary operators, from the loosest to the tightest. -/
inductive Level where
  | equality | comparison | term | factor
  deriving DecidableEq, Repr

/-- The place of a level in the order of tightness. -/
def Level.rank : Level → Nat
  | .equality => 0
  | .comparison => 1
  | .term => 2
  | .factor => 3

/-! ## Operators and tokens -/

namespace UnaryOp

/-- The kind of token that stands for a unary operator. -/
def kind : UnaryOp → Token.Kind
  | .not => .bang
  | .negate => .minus

end UnaryOp

namespace BinaryOp

/-- The kind of token that stands for a binary operator. -/
def kind : BinaryOp → Token.Kind
  | .arithmetic .add => .plus
  | .arithmetic .subtract => .minus
  | .arithmetic .multiply => .star
  | .arithmetic .divide => .slash
  | .comparison .greater => .greater
  | .comparison .greaterOrEqual => .greaterEquals
  | .comparison .smaller => .smaller
  | .comparison .smallerOrEqual => .smallerEquals
  | .equality .equal => .equals
  | .equality .unequal => .bangEquals

/-- Multiplication and division bind tightest, then sums, then orders, then equality. -/
def level : BinaryOp → Level
  | .arithmetic .multiply | .arithmetic .divide => .factor
  | .arithmetic .add | .arithmetic .subtract => .term
  | .comparison _ => .comparison
  | .equality _ => .equality

end BinaryOp

namespace Token.Kind

/-- The operator that a kind of token stands for in front of an operand. -/
def unaryOp? : Kind → Option UnaryOp
  | .bang => some .not
  | .minus => some .negate
  | _ => none

/-- The operator that a kind of token stands for between two operands. -/
def binaryOp? : Kind → Option BinaryOp
  | .plus => some (.arithmetic .add)
  | .minus => some (.arithmetic .subtract)
  | .star => some (.arithmetic .multiply)
  | .slash => some (.arithmetic .divide)
  | .greater => some (.comparison .greater)
  | .greaterEquals => some (.comparison .greaterOrEqual)
  | .smaller => some (.comparison .smaller)
  | .smallerEquals => some (.comparison .smallerOrEqual)
  | .equals => some (.equality .equal)
  | .bangEquals => some (.equality .unequal)
  | _ => none

/-- The level of the operator that a kind of token stands for between two operands. -/
def level? (kind : Kind) : Option Level :=
  kind.binaryOp?.map BinaryOp.level

/-- A binary operator is read back from its kind of token. -/
@[simp] theorem binaryOp?_kind (op : BinaryOp) : op.kind.binaryOp? = some op := by
  rcases op with op | op | op <;> cases op <;> rfl

end Token.Kind

/-- No other kind of token stands for a unary operator. -/
theorem UnaryOp.kind_of_unaryOp? {kind : Token.Kind} {op : UnaryOp}
    (h : kind.unaryOp? = some op) : op.kind = kind := by
  cases kind <;> simp [Token.Kind.unaryOp?] at h <;> subst h <;> rfl

/-- No other kind of token stands for a binary operator. -/
theorem BinaryOp.kind_of_binaryOp? {kind : Token.Kind} {op : BinaryOp}
    (h : kind.binaryOp? = some op) : op.kind = kind := by
  cases kind <;> simp [Token.Kind.binaryOp?] at h <;> subst h <;> rfl

end Abacus
