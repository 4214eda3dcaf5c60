import Abacus.Proofs.Nesting

/-!
# Evaluation of a tree with a part in it

A part of a tree counts for what it comes to by itself, and for nothing else. Evaluation does not
take a tree apart into its nodes: a left operand that is a binary node is reduced in the loop of the
node around it, and any other one by itself, so a change to a part can make the spine around it
longer or shorter. What comes of the whole is its meaning all the same, and that is put together
node by node.

Results:
1. `Context.meaning_fill`: the meaning of a tree depends on a part of it only through the meaning of
   that part, and `Context.meaning_toldAlike`: it keeps apart no more than that meaning does.
2. `evaluate_fill`: the same holds of what a tree is evaluated to. Parentheses around a part make no
   difference, nor does the literal of its value in its place.
-/

namespace Abacus

/-! ## Outcomes -/

/-- Outcomes that are told alike: the same value, or errors with the same message at the same
token. -/
inductive ToldAlike : Except EvalFailure Value → Except EvalFailure Value → Prop
  | value (value : Value) : ToldAlike (.ok value) (.ok value)
  | failed {first second : EvalError} :
      first.message = second.message → first.token = second.token →
      ToldAlike (.error (.failed first)) (.error (.failed second))
  | «foreign» (failure : Foreign) :
      ToldAlike (.error (.foreign failure)) (.error (.foreign failure))
  | overlong : ToldAlike (.error .overlong) (.error .overlong)

namespace ToldAlike

@[refl] theorem refl (outcome : Except EvalFailure Value) : ToldAlike outcome outcome := by
  rcases outcome with (error | failure | _) | value
  · exact .failed rfl rfl
  · exact .foreign failure
  · exact .overlong
  · exact .value value

/-- Outcomes that are told alike are gone on with alike. A failure is what comes of the whole. -/
theorem bind {first second : Except EvalFailure Value}
    {next other : Value → Except EvalFailure Value} (same : ToldAlike first second)
    (goesOn : ∀ value, ToldAlike (next value) (other value)) :
    ToldAlike (first.bind next) (second.bind other) := by
  cases same with
  | value value => exact goesOn value
  | failed messages tokens => exact .failed messages tokens
  | «foreign» failure => exact .foreign failure
  | overlong => exact .overlong

end ToldAlike

/-! ## Contexts -/

/-- A tree with a hole in it, at the end of a path of parentheses and operands. -/
inductive Context where
  | hole
  | grouping (token : Token) (inner : Context)
  | unary (token : Token) (operand : Context)
  | leftOperand (token : Token) (inner : Context) (right : Expr)
  | rightOperand (token : Token) (left : Expr) (inner : Context)
  deriving DecidableEq, Repr

namespace Context

/-- The tree with a part in place of the hole. -/
def fill : Context → Expr → Expr
  | .hole, part => part
  | .grouping token inner, part => .grouping token (inner.fill part)
  | .unary token operand, part => .unary token (operand.fill part)
  | .leftOperand token inner right, part => .binary token (inner.fill part) right
  | .rightOperand token left inner, part => .binary token left (inner.fill part)

/-- What is made of the meaning of a part on the way from the hole to the top. -/
def meaning : Context → Except EvalFailure Value → Except EvalFailure Value
  | .hole, outcome => outcome
  | .grouping _ inner, outcome => inner.meaning outcome
  | .unary token operand, outcome =>
    (operand.meaning outcome).bind fun value => (token.applyUnary value).mapError .failed
  | .leftOperand token inner right, outcome =>
    (inner.meaning outcome).bind fun first =>
      right.meaning.bind fun second => (token.applyBinary first second).mapError .failed
  | .rightOperand token left inner, outcome =>
    left.meaning.bind fun first =>
      (inner.meaning outcome).bind fun second => (token.applyBinary first second).mapError .failed

/-- The meaning of a tree depends on a part of it only through the meaning of that part. -/
theorem meaning_fill (context : Context) (part : Expr) :
    (context.fill part).meaning = context.meaning part.meaning := by
  induction context with
  | hole => rfl
  | grouping token inner ih => exact ih
  | unary token operand ih => rw [fill, Expr.meaning, ih, meaning]
  | leftOperand token inner right ih => rw [fill, Expr.meaning, ih, meaning]
  | rightOperand token left inner ih => rw [fill, Expr.meaning, ih, meaning]

/-- Meanings that are told alike are made into meanings that are. -/
theorem meaning_toldAlike (context : Context) {first second : Except EvalFailure Value}
    (same : ToldAlike first second) :
    ToldAlike (context.meaning first) (context.meaning second) := by
  induction context with
  | hole => exact same
  | grouping token inner ih => exact ih
  | unary token operand ih => exact ih.bind fun _ => .refl _
  | leftOperand token inner right ih => exact ih.bind fun _ => .refl _
  | rightOperand token left inner ih =>
    exact (ToldAlike.refl left.meaning).bind fun _ => ih.bind fun _ => .refl _

end Context

/-! ## Evaluation -/

/-- The literal of a value, made of any token. -/
def Value.literal (token : Token) : Value → Expr
  | .integer value => .integer token value
  | .boolean value => .boolean token value
  | .string value => .string token value

theorem Value.meaning_literal (token : Token) (value : Value) :
    (value.literal token).meaning = .ok value := by
  cases value <;> rfl

/-- `expr.WithinLimits writer`: the evaluation of a tree does not go too deep, and if it is traced,
the trace can be written. -/
structure Expr.WithinLimits (expr : Expr) (writer : Writer) : Prop where
  shallow : ∀ root, (evaluate expr writer).1 ≠ tooDeep root
  short : writer.debugging = true → expr.NumeralsShort

theorem Expr.WithinLimits.evaluate_fst {expr : Expr} {writer : Writer}
    (within : expr.WithinLimits writer) : (evaluate expr writer).1 = expr.meaning :=
  Abacus.evaluate_fst within.shallow within.short

/-- What a tree is evaluated to depends on a part of it only through what that part is evaluated to
by itself. Parentheses around the part make no difference, and neither does the literal of its value
in its place. -/
theorem evaluate_fill (context : Context) (writer : Writer) :
    (∀ first second : Expr, first.WithinLimits writer → second.WithinLimits writer →
      (context.fill first).WithinLimits writer → (context.fill second).WithinLimits writer →
      ToldAlike (evaluate first writer).1 (evaluate second writer).1 →
      ToldAlike (evaluate (context.fill first) writer).1
        (evaluate (context.fill second) writer).1) ∧
    (∀ (part : Expr) (token : Token), (context.fill part).WithinLimits writer →
      (context.fill (.grouping token part)).WithinLimits writer →
      (evaluate (context.fill (.grouping token part)) writer).1 =
        (evaluate (context.fill part) writer).1) ∧
    (∀ (part : Expr) (value : Value) (token : Token), (evaluate part writer).1 = .ok value →
      (context.fill part).WithinLimits writer →
      (context.fill (value.literal token)).WithinLimits writer →
      (evaluate (context.fill (value.literal token)) writer).1 =
        (evaluate (context.fill part) writer).1) := by
  refine ⟨?_, ?_, ?_⟩
  · intro first second within otherWithin whole other same
    rw [within.evaluate_fst, otherWithin.evaluate_fst] at same
    rw [whole.evaluate_fst, other.evaluate_fst, context.meaning_fill, context.meaning_fill]
    exact context.meaning_toldAlike same
  · intro part token within grouped
    rw [grouped.evaluate_fst, within.evaluate_fst, context.meaning_fill, context.meaning_fill,
      Expr.meaning]
  · intro part value token evaluated within literal
    rw [literal.evaluate_fst, within.evaluate_fst, context.meaning_fill, context.meaning_fill,
      value.meaning_literal, meaning_of_evaluate evaluated]

/-- A difference in front of another one makes a spine with it. The same value also comes of a node
that ends the spine, of the difference in parentheses and of a literal. -/
theorem evaluate_fill_chain :
    ∃ (context : Context) (first second : Expr) (four : Token),
      context.fill first = .binary ⟨.minus, "-", 1⟩
        (.binary ⟨.minus, "-", 1⟩ (.integer ⟨.integerLiteral, "8", 1⟩ 8)
          (.integer ⟨.integerLiteral, "4", 1⟩ 4))
        (.integer ⟨.integerLiteral, "2", 1⟩ 2) ∧
      context.fill second = .binary ⟨.minus, "-", 1⟩
        (.unary ⟨.minus, "-", 1⟩ (.integer ⟨.integerLiteral, "-4", 1⟩ (-4)))
        (.integer ⟨.integerLiteral, "2", 1⟩ 2) ∧
      (evaluate (context.fill first) {}).1 = .ok (.integer 2) ∧
      ToldAlike (evaluate first {}).1 (evaluate second {}).1 ∧
      ToldAlike (evaluate (context.fill first) {}).1 (evaluate (context.fill second) {}).1 ∧
      (evaluate (context.fill (.grouping ⟨.leftParen, "(", 1⟩ first)) {}).1 = .ok (.integer 2) ∧
      (evaluate (context.fill (.integer four 4)) {}).1 = .ok (.integer 2) := by
  have within {expr : Expr} (le : expr.nesting ≤ evaluationDepth) : expr.WithinLimits {} :=
    ⟨shallow_of_within (Expr.not_exceeds_of_nesting_le le) {}, nofun⟩
  obtain ⟨congruent, grouped, literal⟩ := evaluate_fill
    (.leftOperand ⟨.minus, "-", 1⟩ .hole (.integer ⟨.integerLiteral, "2", 1⟩ 2)) {}
  have whole : (evaluate (.binary ⟨.minus, "-", 1⟩
      (.binary ⟨.minus, "-", 1⟩ (.integer ⟨.integerLiteral, "8", 1⟩ 8)
        (.integer ⟨.integerLiteral, "4", 1⟩ 4))
      (.integer ⟨.integerLiteral, "2", 1⟩ 2)) {}).1 = .ok (.integer 2) := by decide +kernel
  have part : (evaluate (.binary ⟨.minus, "-", 1⟩ (.integer ⟨.integerLiteral, "8", 1⟩ 8)
      (.integer ⟨.integerLiteral, "4", 1⟩ 4)) {}).1 = .ok (.integer 4) := by decide +kernel
  have other : (evaluate (.unary ⟨.minus, "-", 1⟩
      (.integer ⟨.integerLiteral, "-4", 1⟩ (-4))) {}).1 = .ok (.integer 4) := by decide +kernel
  have same : ToldAlike
      (evaluate (.binary ⟨.minus, "-", 1⟩ (.integer ⟨.integerLiteral, "8", 1⟩ 8)
        (.integer ⟨.integerLiteral, "4", 1⟩ 4)) {}).1
      (evaluate (.unary ⟨.minus, "-", 1⟩ (.integer ⟨.integerLiteral, "-4", 1⟩ (-4))) {}).1 := by
    rw [part, other]
  refine ⟨.leftOperand ⟨.minus, "-", 1⟩ .hole (.integer ⟨.integerLiteral, "2", 1⟩ 2), _,
    .unary ⟨.minus, "-", 1⟩ (.integer ⟨.integerLiteral, "-4", 1⟩ (-4)),
    ⟨.integerLiteral, "4", 1⟩, rfl, rfl, whole, same, ?_, ?_, ?_⟩
  · exact congruent _ _ (within (by decide)) (within (by decide)) (within (by decide))
      (within (by decide)) same
  · exact (grouped _ _ (within (by decide)) (within (by decide))).trans whole
  · exact (literal _ _ _ part (within (by decide)) (within (by decide))).trans whole

end Abacus
