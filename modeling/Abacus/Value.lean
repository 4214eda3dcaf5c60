import Abacus.Integer
import Abacus.Operator
import Abacus.Text.Truth

/-!
# Values and operators on them

Values are integers, truth values and strings. Operators check the types of their operands and the
range of their result; no operand is ever converted.

Results:
1. `Integer.quotient_eq_tdiv`: the quotient found from absolute values and signs is the one rounded
   toward zero.
2. `Arithmetic.apply_eq_ok_iff`: arithmetic gives the exact result exactly if it is in range and no
   division by zero.
-/

namespace Abacus

/-- What an expression evaluates to. -/
inductive Value where
  | integer (value : Int)
  | boolean (value : Bool)
  | string (value : String)
  deriving DecidableEq, Repr

/-- A value as it would be entered; a string stands between quotes as it is. -/
def Value.display : Value → String
  | .integer value => Numeral.decimal value
  | .boolean value => Truth.write value
  | .string value => "\"" ++ value ++ "\""

/-- A value as it is displayed, unless it is an integer with too many digits. -/
def Value.display? : Value → Option String
  | .integer value => Numeral.write? value
  | .boolean value => some (Truth.write value)
  | .string value => some ("\"" ++ value ++ "\"")

/-- Whether a value can be displayed. -/
def Value.Short : Value → Prop
  | .integer value => Numeral.Short value
  | _ => True

theorem Value.display?_of_short {value : Value} (short : value.Short) :
    value.display? = some value.display := by
  cases value with
  | integer value => exact Numeral.write?_of_short short
  | boolean value => rfl
  | string value => rfl

/-! ## Errors -/

/-- Why an expression has no value. -/
inductive EvalError.Cause where
  /-- The operand of a negation is no truth value. -/
  | notBoolean
  /-- The operand of a sign change is no integer. -/
  | notInteger
  /-- A token in front of an operand is no unary operator. -/
  | unsupportedUnary
  /-- A token between two operands is no binary operator. -/
  | unsupportedBinary
  /-- A binary operator does not take operands of these types. -/
  | invalidOperands
  | divisionByZero
  /-- The exact result is outside the range of integers. -/
  | overflow
  /-- Nodes are nested more deeply than evaluation follows. -/
  | nestedTooDeeply
  deriving DecidableEq, Repr

/-- A cause for having no value, and the token of the node that failed. -/
structure EvalError where
  cause : EvalError.Cause
  token : Token
  deriving DecidableEq, Repr

namespace EvalError

/-- What is wrong with an operator of the given spelling. -/
def Cause.problem (spelling : String) : Cause → String
  | .notBoolean => "Invalid operand for '!', expected boolean expression"
  | .notInteger => "Invalid operand for '-', expected integer expression"
  | .unsupportedUnary => "Unsupported unary operator '" ++ spelling ++ "'"
  | .unsupportedBinary => "Unsupported binary operator '" ++ spelling ++ "'"
  | .invalidOperands => "Invalid operands for '" ++ spelling ++ "'"
  | .divisionByZero => "Division by zero"
  | .overflow => "Integer overflow, result of '" ++ spelling ++ "' does not fit in 32 bits"
  | .nestedTooDeeply => "Expression nested too deeply"

/-- Where the evaluation failed and what is wrong there. -/
def message (error : EvalError) : String :=
  error.token.report (error.cause.problem error.token.lexeme)

end EvalError

/-! ## Operators -/

/-- A result of integer arithmetic, if it is in range. -/
def checked (result : Int) : Except EvalError.Cause Value :=
  if Integer.fits result then .ok (.integer result) else .error .overflow

/-- The quotient of the absolute values, negated if one operand is negative and the other is not. -/
def Integer.quotient (left right : Int) : Int :=
  if (left < 0 ↔ right < 0) then ↑(left.natAbs / right.natAbs)
  else -↑(left.natAbs / right.natAbs)

/-- The exact result; division drops the fraction, toward zero. -/
def Arithmetic.exact : Arithmetic → Int → Int → Int
  | .add, left, right => left + right
  | .subtract, left, right => left - right
  | .multiply, left, right => left * right
  | .divide, left, right => Integer.quotient left right

/-- The exact result of two integers if it exists and is in range. -/
def Arithmetic.apply (op : Arithmetic) (left right : Int) : Except EvalError.Cause Value :=
  if op = .divide ∧ right = 0 then .error .divisionByZero else checked (op.exact left right)

/-- Whether two integers stand in the order. -/
def Comparison.holds : Comparison → Int → Int → Bool
  | .greater, left, right => right < left
  | .greaterOrEqual, left, right => right ≤ left
  | .smaller, left, right => left < right
  | .smallerOrEqual, left, right => left ≤ right

/-- The answer of an equality operator on operands that are the same or not. -/
def Equality.holds : Equality → Bool → Bool
  | .equal, same => same
  | .unequal, same => !same

/-- Negation of a truth value, or change of sign of an integer. -/
def UnaryOp.apply : UnaryOp → Value → Except EvalError.Cause Value
  | .not, .boolean value => .ok (.boolean !value)
  | .not, _ => .error .notBoolean
  | .negate, .integer value => checked (-value)
  | .negate, _ => .error .notInteger

/-- Arithmetic and order take two integers, equality also two truth values. -/
def BinaryOp.apply : BinaryOp → Value → Value → Except EvalError.Cause Value
  | .arithmetic op, .integer left, .integer right => op.apply left right
  | .comparison op, .integer left, .integer right => .ok (.boolean (op.holds left right))
  | .equality op, .integer left, .integer right => .ok (.boolean (op.holds (left == right)))
  | .equality op, .boolean left, .boolean right => .ok (.boolean (op.holds (left == right)))
  | _, _, _ => .error .invalidOperands

namespace Token

/-- The value of an operator token in front of an operand. -/
def applyUnary (token : Token) (operand : Value) : Except EvalError Value :=
  match token.kind.unaryOp? with
  | none => .error ⟨.unsupportedUnary, token⟩
  | some op => (op.apply operand).mapError (⟨·, token⟩)

/-- The value of an operator token between two operands. -/
def applyBinary (token : Token) (left right : Value) : Except EvalError Value :=
  match token.kind.binaryOp? with
  | none => .error ⟨.unsupportedBinary, token⟩
  | some op => (op.apply left right).mapError (⟨·, token⟩)

end Token

/-- The quotient found from absolute values and signs is the one rounded toward zero. -/
theorem Integer.quotient_eq_tdiv (a b : Int) : quotient a b = a.tdiv b := by
  unfold quotient
  cases a with
  | ofNat m =>
    have above : ¬ Int.ofNat m < 0 := Int.not_lt.mpr (Int.natCast_nonneg m)
    cases b with
    | ofNat n =>
      have otherAbove : ¬ Int.ofNat n < 0 := Int.not_lt.mpr (Int.natCast_nonneg n)
      rw [if_pos (iff_of_false above otherAbove)]
      rfl
    | negSucc n =>
      rw [if_neg fun same => above (same.mpr (Int.negSucc_lt_zero n))]
      rfl
  | negSucc m =>
    have below := Int.negSucc_lt_zero m
    cases b with
    | ofNat n =>
      rw [if_neg fun same => Int.not_lt.mpr (Int.natCast_nonneg n) (same.mp below)]
      rfl
    | negSucc n =>
      rw [if_pos (iff_of_true below (Int.negSucc_lt_zero n))]
      rfl

/-- Arithmetic gives the exact result exactly if it is in range and no division by zero. -/
theorem Arithmetic.apply_eq_ok_iff {op : Arithmetic} {left right : Int} {value : Value} :
    op.apply left right = .ok value ↔
      ¬ (op = .divide ∧ right = 0) ∧ Integer.fits (op.exact left right) = true ∧
        value = .integer (op.exact left right) := by
  unfold apply checked
  split
  · simp [*]
  · split <;> simp [*, eq_comm]

end Abacus
