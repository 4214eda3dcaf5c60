import Abacus.Proofs.Spine

/-!
# Types

Operands are checked when an operator is applied, but which check fails can be told from the tree
alone: literals have the types of their values, and every operator has one type for each choice of
operand types that it takes. No value decides a type, and no operand is left out, so a tree with a
type can only fail in its arithmetic, and a tree without one always fails.

Results:
1. `UnaryOp.apply_settles` and `BinaryOp.apply_settles`: an operator on values comes to what its
   operand types say.
2. `Expr.meaning_settles`: so does a tree of the operators of the language.
3. `evaluate_typed`: evaluation gives a value of the type of the tree or fails in arithmetic; a tree
   without a type fails.
-/

namespace Abacus

/-! ## Types -/

/-- What kind of value an expression has. -/
inductive ValueType where
  | integer | boolean | string
  deriving DecidableEq, Repr

namespace Value

/-- The type of a value. -/
def type : Value → ValueType
  | .integer _ => .integer
  | .boolean _ => .boolean
  | .string _ => .string

end Value

/-- The type of a result from the type of the operand. -/
def UnaryOp.type? : UnaryOp → ValueType → Option ValueType
  | .not, .boolean => some .boolean
  | .negate, .integer => some .integer
  | _, _ => none

/-- The type of a result from the types of the operands. -/
def BinaryOp.type? : BinaryOp → ValueType → ValueType → Option ValueType
  | .arithmetic _, .integer, .integer => some .integer
  | .comparison _, .integer, .integer => some .boolean
  | .equality _, .integer, .integer | .equality _, .boolean, .boolean => some .boolean
  | _, _, _ => none

namespace Expr

/-- The type of a tree, bottom-up. A tree of which a part has no type has none. -/
def type? : Expr → Option ValueType
  | .integer _ _ => some .integer
  | .boolean _ _ => some .boolean
  | .string _ _ => some .string
  | .grouping _ inner => inner.type?
  | .unary token operand =>
    operand.type?.bind fun type => token.kind.unaryOp?.bind (·.type? type)
  | .binary token left right =>
    left.type?.bind fun first =>
      right.type?.bind fun second => token.kind.binaryOp?.bind (·.type? first second)
  | .foreign _ => none

/-- Whether a tree is made of literals, parentheses and the operators of the language. -/
def isProper : Expr → Bool
  | .integer _ _ | .boolean _ _ | .string _ _ => true
  | .grouping _ inner => inner.isProper
  | .unary token operand => token.kind.unaryOp?.isSome && operand.isProper
  | .binary token left right =>
    token.kind.binaryOp?.isSome && left.isProper && right.isProper
  | .foreign _ => false

end Expr

/-! ## What types promise -/

/-- The failures of arithmetic on integers. -/
def EvalError.Cause.Arithmetical (cause : EvalError.Cause) : Prop :=
  cause = .divisionByZero ∨ cause = .overflow

/-- What a type promises of an outcome: a value of that type, or a failure of arithmetic. Without a
type, there is some failure. -/
def Settles (outcome : Except EvalFailure Value) : Option ValueType → Prop
  | some type =>
    (∃ value, outcome = .ok value ∧ value.type = type) ∨
      ∃ error, outcome = .error (.failed error) ∧ error.cause.Arithmetical
  | none => ∃ error, outcome = .error (.failed error)

namespace Settles

variable {outcome : Except EvalFailure Value} {error : EvalError}

theorem value (value : Value) : Settles (.ok value) (some value.type) :=
  .inl ⟨value, rfl, rfl⟩

/-- A failure of arithmetic is all right with any type, and with none. -/
theorem arithmetical (fails : outcome = .error (.failed error)) (own : error.cause.Arithmetical)
    (type? : Option ValueType) : Settles outcome type? := by
  cases type? with
  | none => exact ⟨error, fails⟩
  | some type => exact .inr ⟨error, fails, own⟩

/-- Whatever a type promises, there is a value or a failure of evaluation. -/
theorem ok_or_failed {type? : Option ValueType} (settles : Settles outcome type?) :
    (∃ value, outcome = .ok value) ∨ ∃ error, outcome = .error (.failed error) := by
  cases type? with
  | none => exact .inr settles
  | some type =>
    rcases settles with ⟨value, means, -⟩ | ⟨error, fails, -⟩
    · exact .inl ⟨value, means⟩
    · exact .inr ⟨error, fails⟩

end Settles

/-! ## Operators -/

/-- The outcome of an operator on values, at the token of the operator. -/
def outcomeAt (token : Token) (applied : Except EvalError.Cause Value) : Except EvalFailure Value :=
  applied.mapError fun cause => .failed ⟨cause, token⟩

theorem settles_checked (token : Token) (result : Int) :
    Settles (outcomeAt token (checked result)) (some .integer) := by
  unfold checked
  split
  · exact .value (.integer result)
  · exact .arithmetical rfl (.inr rfl) _

/-- Arithmetic gives an integer, or fails as arithmetic does. -/
theorem Arithmetic.apply_settles (op : Arithmetic) (token : Token) (left right : Int) :
    Settles (outcomeAt token (op.apply left right)) (some .integer) := by
  unfold apply
  split
  · exact .arithmetical rfl (.inl rfl) _
  · exact settles_checked token _

/-- A unary operator comes to what the type of its operand says. -/
theorem UnaryOp.apply_settles (op : UnaryOp) (token : Token) (operand : Value) :
    Settles (outcomeAt token (op.apply operand)) (op.type? operand.type) := by
  cases op with
  | not =>
    cases operand with
    | boolean value => exact .value (.boolean !value)
    | integer | string => exact ⟨_, rfl⟩
  | negate =>
    cases operand with
    | integer value => exact settles_checked token (-value)
    | boolean | string => exact ⟨_, rfl⟩

/-- A binary operator comes to what the types of its operands say. -/
theorem BinaryOp.apply_settles (op : BinaryOp) (token : Token) (left right : Value) :
    Settles (outcomeAt token (op.apply left right)) (op.type? left.type right.type) := by
  cases op with
  | arithmetic op =>
    cases left <;> cases right <;> first | exact op.apply_settles token _ _ | exact ⟨_, rfl⟩
  | comparison op =>
    cases left <;> cases right <;> first | exact .value (.boolean _) | exact ⟨_, rfl⟩
  | equality op =>
    cases left <;> cases right <;> first | exact .value (.boolean _) | exact ⟨_, rfl⟩

theorem Token.applyUnary_settles {token : Token} (isOp : token.kind.unaryOp?.isSome = true)
    (operand : Value) :
    Settles ((token.applyUnary operand).mapError .failed)
      (token.kind.unaryOp?.bind (·.type? operand.type)) := by
  obtain ⟨op, found⟩ := Option.isSome_iff_exists.mp isOp
  have applied : (token.applyUnary operand).mapError .failed =
      outcomeAt token (op.apply operand) := by
    rw [applyUnary, found]
    dsimp only
    cases op.apply operand <;> rfl
  rw [applied, found]
  exact op.apply_settles token operand

theorem Token.applyBinary_settles {token : Token} (isOp : token.kind.binaryOp?.isSome = true)
    (left right : Value) :
    Settles ((token.applyBinary left right).mapError .failed)
      (token.kind.binaryOp?.bind (·.type? left.type right.type)) := by
  obtain ⟨op, found⟩ := Option.isSome_iff_exists.mp isOp
  have applied : (token.applyBinary left right).mapError .failed =
      outcomeAt token (op.apply left right) := by
    rw [applyBinary, found]
    dsimp only
    cases op.apply left right <;> rfl
  rw [applied, found]
  exact op.apply_settles token left right

/-! ## Trees -/

/-- A tree of the operators of the language means what its type says. -/
theorem Expr.meaning_settles {expr : Expr} (proper : expr.isProper = true) :
    Settles expr.meaning expr.type? := by
  induction expr with
  | integer _ value => exact .value (.integer value)
  | boolean _ value => exact .value (.boolean value)
  | string _ value => exact .value (.string value)
  | grouping _ inner ih => exact ih proper
  | unary token operand ih =>
    obtain ⟨isOp, operandProper⟩ := (Bool.and_eq_true _ _).mp proper
    have below := ih operandProper
    rw [type?]
    cases typed : operand.type? with
    | none =>
      rw [typed] at below
      obtain ⟨error, fails⟩ := below
      exact ⟨error, meaning_operandFails fails⟩
    | some type =>
      rw [typed] at below
      rcases below with ⟨value, means, rfl⟩ | ⟨error, fails, arithmetical⟩
      · rw [meaning_unary means]
        exact Token.applyUnary_settles isOp value
      · exact .arithmetical (meaning_operandFails fails) arithmetical _
  | binary token left right first second =>
    obtain ⟨before, rightProper⟩ := (Bool.and_eq_true _ _).mp proper
    obtain ⟨isOp, leftProper⟩ := (Bool.and_eq_true _ _).mp before
    have before := first leftProper
    have behind := second rightProper
    rw [type?]
    -- The right operand is evaluated whenever the left one has a value, so its type counts.
    cases leftTyped : left.type? with
    | none =>
      rw [leftTyped] at before
      obtain ⟨error, fails⟩ := before
      exact ⟨error, meaning_leftFails fails⟩
    | some leftType =>
      rw [leftTyped] at before
      rcases before with ⟨leftValue, leftMeans, rfl⟩ | ⟨error, fails, arithmetical⟩
      · cases rightTyped : right.type? with
        | none =>
          rw [rightTyped] at behind
          obtain ⟨error, fails⟩ := behind
          exact ⟨error, meaning_rightFails leftMeans fails⟩
        | some rightType =>
          rw [rightTyped] at behind
          rcases behind with ⟨rightValue, rightMeans, rfl⟩ | ⟨error, fails, arithmetical⟩
          · rw [meaning_binary leftMeans rightMeans]
            exact Token.applyBinary_settles isOp leftValue rightValue
          · exact .arithmetical (meaning_rightFails leftMeans fails) arithmetical _
      · exact .arithmetical (meaning_leftFails fails) arithmetical _
  | «foreign» typeName => cases proper

/-! ## Evaluation -/

/-- What is said of a failure of arithmetic. -/
theorem EvalError.message_of_arithmetical {error : EvalError} (h : error.cause.Arithmetical) :
    error.message = error.token.report "Division by zero" ∨
      error.message = error.token.report
        ("Integer overflow, result of '" ++ error.token.lexeme ++ "' does not fit in 32 bits") := by
  rcases h with cause | cause
  · exact .inl (by rw [message, cause]; rfl)
  · exact .inr (by rw [message, cause]; rfl)

/-- A tree of the operators of the language that is not nested too deeply evaluates to a value of
its type, or fails with a division by zero or an overflow. If it has no type, it fails, so only
trees with a type have values. When debugging, its numerals have to be short, for the trace. -/
theorem evaluate_typed {expr : Expr} {writer : Writer} (proper : expr.isProper = true)
    (shallow : ∀ root, (evaluate expr writer).1 ≠ tooDeep root)
    (short : writer.debugging = true → expr.NumeralsShort) :
    (∀ type, expr.type? = some type →
      (∃ value, (evaluate expr writer).1 = .ok value ∧ value.type = type) ∨
      ∃ error, (evaluate expr writer).1 = .error (.failed error) ∧
        (error.message = error.token.report "Division by zero" ∨
          error.message = error.token.report
            ("Integer overflow, result of '" ++ error.token.lexeme ++
              "' does not fit in 32 bits"))) ∧
    (expr.type? = none → ∃ error, (evaluate expr writer).1 = .error (.failed error)) ∧
    ∀ value, (evaluate expr writer).1 = .ok value → expr.type? = some value.type := by
  have settles := Expr.meaning_settles proper
  rw [evaluate_fst shallow short]
  refine ⟨?_, ?_, ?_⟩
  · intro type typed
    rw [typed] at settles
    rcases settles with means | ⟨error, fails, arithmetical⟩
    · exact .inl means
    · exact .inr ⟨error, fails, EvalError.message_of_arithmetical arithmetical⟩
  · intro untyped
    rw [untyped] at settles
    exact settles
  · intro value means
    cases typed : expr.type? with
    | none =>
      rw [typed] at settles
      obtain ⟨error, fails⟩ := settles
      cases means.symm.trans fails
    | some type =>
      rw [typed] at settles
      rcases settles with ⟨other, otherMeans, rfl⟩ | ⟨error, fails, -⟩
      · rw [Except.ok.inj (means.symm.trans otherMeans)]
      · cases means.symm.trans fails

/-- A sum that does not fit is an integer, and its failure is one of arithmetic. A truth value next
to it leaves the tree without a type. -/
theorem evaluate_large_sum :
    ∃ sum untyped writer,
      sum = .binary ⟨.plus, "+", 1⟩ (.integer ⟨.integerLiteral, "2147483647", 1⟩ 2147483647)
        (.integer ⟨.integerLiteral, "1", 1⟩ 1) ∧
      untyped = .binary ⟨.smaller, "<", 1⟩ sum (.boolean ⟨.booleanLiteral, "true", 1⟩ true) ∧
      writer = ⟨2, true, 0, ""⟩ ∧ sum.type? = some .integer ∧ untyped.type? = none ∧
      (∃ error, (evaluate sum writer).1 = .error (.failed error) ∧
        (error.message = error.token.report "Division by zero" ∨
          error.message = error.token.report
            ("Integer overflow, result of '" ++ error.token.lexeme ++
              "' does not fit in 32 bits"))) ∧
      ∃ error, (evaluate untyped writer).1 = .error (.failed error) := by
  refine ⟨_, _, _, rfl, rfl, rfl, rfl, rfl, ?_, ?_⟩
  · have overflows : (evaluate (.binary ⟨.plus, "+", 1⟩
        (.integer ⟨.integerLiteral, "2147483647", 1⟩ 2147483647)
        (.integer ⟨.integerLiteral, "1", 1⟩ 1)) ⟨2, true, 0, ""⟩).1 =
        .error (.failed ⟨.overflow, ⟨.plus, "+", 1⟩⟩) := by decide +kernel
    have settled := evaluate_typed rfl (fun root deep => by cases overflows.symm.trans deep)
      fun _ => by decide
    rcases settled.1 .integer rfl with ⟨value, means, -⟩ | fails
    · cases overflows.symm.trans means
    · exact fails
  · have overflows : (evaluate (.binary ⟨.smaller, "<", 1⟩ (.binary ⟨.plus, "+", 1⟩
        (.integer ⟨.integerLiteral, "2147483647", 1⟩ 2147483647)
        (.integer ⟨.integerLiteral, "1", 1⟩ 1)) (.boolean ⟨.booleanLiteral, "true", 1⟩ true))
        ⟨2, true, 0, ""⟩).1 =
        .error (.failed ⟨.overflow, ⟨.plus, "+", 1⟩⟩) := by decide +kernel
    have settled := evaluate_typed rfl (fun root deep => by cases overflows.symm.trans deep)
      fun _ => by decide
    exact settled.2.1 rfl

end Abacus
