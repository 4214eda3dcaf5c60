import Abacus.Proofs.Meaning
import Mathlib.Control.Monad.Basic

/-!
# Reducing spines is plain recursion

Evaluation takes a left spine apart, moves the indentation in for the whole of it and reduces it in
a loop. Plain recursion moves in and out at each node. Both do the same because of what holds at
each link: the indentation still to be given back is that of the links that are left, and on a
failure all of them give theirs back.

Results:
1. `climb_spine`: plain recursion down a spine is a climb up its links.
2. `reduce_eq_climb`: the loop is that climb.
3. `evaluate_eq_plainly`: so evaluation is plain recursion as long as the nesting limit is not hit.
-/

namespace Abacus

/-! ## Climbing up a spine -/

/-- From the outcome of the left operand of a link to the outcome of the link. -/
def Link.climb (link : Link) : Except EvalFailure Value × Writer → Except EvalFailure Value × Writer
  | (.error failure, after) => (.error failure, after.dedent)
  | (.ok left, between) =>
    match evaluatePlainly link.right between with
    | (.error failure, after) => (.error failure, after.dedent)
    | (.ok right, after) => finish link.node (link.token.applyBinary left right) after.dedent

/-- From the outcome of the operand at the lower end of a spine to the outcome of the whole. -/
def climb : List Link → Except EvalFailure Value × Writer → Except EvalFailure Value × Writer
  | [], outcome => outcome
  | link :: links, outcome => climb links (link.climb outcome)

/-- A binary node is climbed like any link. -/
theorem Link.climb_left (link : Link) (writer : Writer) :
    link.climb (evaluatePlainly link.left writer.indent) = evaluatePlainly link.node writer := by
  obtain ⟨token, left, right⟩ := link
  rw [node]
  cases leftEq : evaluatePlainly left writer.indent with
  | mk leftOutcome between =>
    cases leftOutcome with
    | error failure => rw [evaluatePlainly_leftFails leftEq]; rfl
    | ok leftValue =>
      rw [climb]
      cases rightEq : evaluatePlainly right between with
      | mk rightOutcome after =>
        cases rightOutcome with
        | error failure => rw [evaluatePlainly_rightFails leftEq rightEq]
        | ok rightValue => rw [evaluatePlainly_binary leftEq rightEq]; rfl

/-- Plain recursion down a spine is a climb up its links, from as far in as there are links. -/
theorem climb_spine (expr : Expr) (links : List Link) (writer : Writer) :
    climb (spine expr links).2
        (evaluatePlainly (spine expr links).1 (writer.indentBy (spine expr links).2.length)) =
      climb links (evaluatePlainly expr (writer.indentBy links.length)) := by
  fun_induction spine expr links with
  | case1 token left right links ih =>
    rw [ih, List.length_cons, Writer.indentBy_succ, climb, Link.climb_left ⟨token, left, right⟩]
    rfl
  | case2 => rfl

/-! ## The loop -/

/-- From the outcome of the left operand of a link to the outcome of the link, by an evaluator for
its right operand. -/
def Link.resume (operand : Evaluator) (link : Link) :
    Except EvalFailure Value × Writer → Except EvalFailure Value × Writer
  | (.error failure, after) => (.error failure, after.dedent)
  | (.ok left, between) =>
    match operand link.right between with
    | (.error failure, after) => (.error failure, after.dedent)
    | (.ok right, after) => finish link.node (link.token.applyBinary left right) after.dedent

/-- What the loop makes of the outcome of the operand at the lower end of a spine. -/
def ascend (operand : Evaluator) (links : List Link) :
    Except EvalFailure Value × Writer → Except EvalFailure Value × Writer
  | (.error failure, after) => (.error failure, after.dedentBy links.length)
  | (.ok value, after) => reduce operand links value after

theorem ascend_nil (operand : Evaluator) (outcome : Except EvalFailure Value × Writer) :
    ascend operand [] outcome = outcome := by
  obtain ⟨_ | value, after⟩ := outcome <;> rfl

/-- The loop does one link after another, whether the one before had a value or failed. -/
theorem ascend_cons (operand : Evaluator) (link : Link) (links : List Link)
    (outcome : Except EvalFailure Value × Writer) :
    ascend operand (link :: links) outcome =
      ascend operand links (link.resume operand outcome) := by
  obtain ⟨_ | left, between⟩ := outcome
  · rfl
  · rw [ascend, reduce, Link.resume]
    cases operand link.right between with
    | mk right after =>
      cases right with
      | error failure => rfl
      | ok right =>
        dsimp only
        cases link.token.applyBinary left right with
        | error error => rfl
        | ok result =>
          dsimp only [finish]
          cases trace link.node result after.dedent with
          | mk traced last => cases traced <;> rfl

/-- Over plain recursion, the loop climbs up the links. -/
theorem climb_eq_ascend (links : List Link) (outcome : Except EvalFailure Value × Writer) :
    climb links outcome = ascend evaluatePlainly links outcome := by
  induction links generalizing outcome with
  | nil => exact (ascend_nil evaluatePlainly outcome).symm
  | cons link links ih =>
    rw [climb, ih, ascend_cons]
    rfl

/-- A failure climbs to the top, and each link gives back its share of the indentation. -/
theorem climb_error (links : List Link) (failure : EvalFailure) (writer : Writer) :
    climb links (.error failure, writer) = (.error failure, writer.dedentBy links.length) :=
  climb_eq_ascend links (.error failure, writer)

/-- The loop climbs up the links, if right operands are evaluated plainly. -/
theorem reduce_eq_climb (links : List Link) (value : Value) (writer : Writer) :
    reduce evaluatePlainly links value writer = climb links (.ok value, writer) :=
  (climb_eq_ascend links (.ok value, writer)).symm

/-! ## Evaluation -/

/-- The failure of an evaluation that went too deep. -/
def tooDeep (root : Token) : Except EvalFailure Value :=
  .error (.failed ⟨.nestedTooDeeply, root⟩)

/-- An evaluator that evaluates plainly unless it goes too deep. -/
def Plainly (root : Token) (evaluator : Evaluator) : Prop :=
  ∀ expr writer, (evaluator expr writer).1 ≠ tooDeep root →
    evaluator expr writer = evaluatePlainly expr writer

/-- The loop evaluates plainly if right operands are, unless one of them goes too deep. -/
theorem reduce_eq_of_plainly {root : Token} {operand : Evaluator} (plainly : Plainly root operand)
    (links : List Link) (value : Value) (writer : Writer)
    (shallow : (reduce operand links value writer).1 ≠ tooDeep root) :
    reduce operand links value writer = reduce evaluatePlainly links value writer := by
  induction links generalizing value writer with
  | nil => rfl
  | cons link links ih =>
    have same : operand link.right writer = evaluatePlainly link.right writer := by
      -- The loop passes on the failure of a right operand, so none of them went too deep.
      refine plainly link.right writer fun deep => shallow ?_
      rw [reduce]
      cases eq : operand link.right writer with
      | mk outcome after =>
        rw [eq] at deep
        cases deep
        rfl
    rw [reduce, same] at shallow ⊢
    rw [reduce]
    cases eq : evaluatePlainly link.right writer with
    | mk outcome after =>
      rw [eq] at shallow
      cases outcome with
      | error failure => rfl
      | ok right =>
        dsimp only at shallow ⊢
        cases applied : link.token.applyBinary value right with
        | error error => rfl
        | ok result =>
          rw [applied] at shallow
          dsimp only at shallow ⊢
          cases traced : trace link.node result after.dedent with
          | mk kept last =>
            rw [traced] at shallow
            cases kept with
            | error failure => rfl
            | ok kept => exact ih kept last shallow

/-- Evaluation within any allowance is plain recursion unless it goes too deep. -/
theorem plainly_evaluateWithin (root : Token) (allowance : Nat) :
    Plainly root (evaluateWithin root allowance) := by
  -- A binary node takes two calls, so its operands come two below it.
  induction allowance using Nat.strongRecOn with
  | ind allowance ih =>
  cases allowance with
  | zero =>
    intro expr writer shallow
    exact absurd rfl shallow
  | succ allowance =>
    intro expr writer shallow
    cases expr with
    | integer | boolean | string | «foreign» => rfl
    | grouping token inner => exact ih allowance (Nat.lt_succ_self _) inner writer shallow
    | unary token operand =>
      rw [evaluateWithin] at shallow ⊢
      have same : evaluateWithin root allowance operand writer.indent =
          evaluatePlainly operand writer.indent := by
        refine ih allowance (Nat.lt_succ_self _) operand writer.indent fun deep => shallow ?_
        cases eq : evaluateWithin root allowance operand writer.indent with
        | mk outcome after =>
          rw [eq] at deep
          cases deep
          rw [Writer.indented_eq eq]
          rfl
      cases eq : evaluatePlainly operand writer.indent with
      | mk outcome after =>
        rw [Writer.indented_eq (same.trans eq)]
        cases outcome with
        | error failure => rw [evaluatePlainly_operandFails eq]
        | ok value => rw [evaluatePlainly_unary eq]; rfl
    | binary token left right =>
      cases allowance with
      | zero => exact absurd rfl shallow
      | succ allowance =>
        have plainly := ih allowance (by omega)
        rw [evaluateWithin] at shallow ⊢
        have climbed := climb_spine (.binary token left right) [] writer
        cases eqSpine : spine (.binary token left right) [] with
        | mk first links =>
          rw [eqSpine] at shallow climbed
          dsimp only at shallow ⊢
          have same : evaluateWithin root allowance first (writer.indentBy links.length) =
              evaluatePlainly first (writer.indentBy links.length) := by
            refine plainly first (writer.indentBy links.length) fun deep => shallow ?_
            cases eq : evaluateWithin root allowance first (writer.indentBy links.length) with
            | mk outcome after =>
              rw [eq] at deep
              cases deep
              rfl
          rw [same] at shallow ⊢
          -- Plain recursion is the climb from the lower end; what is left is the loop from there.
          refine Eq.trans ?_ climbed
          cases eq : evaluatePlainly first (writer.indentBy links.length) with
          | mk outcome after =>
            rw [eq] at shallow
            cases outcome with
            | error failure => exact (climb_error links failure after).symm
            | ok value =>
              exact (reduce_eq_of_plainly plainly links value after shallow).trans
                (reduce_eq_climb links value after)

/-- Evaluation of a whole tree that does not go too deep is plain recursion. -/
theorem plainly_evaluate {expr : Expr} {writer : Writer}
    (shallow : ∀ root, (evaluate expr writer).1 ≠ tooDeep root) :
    evaluate expr writer = evaluatePlainly expr writer := by
  unfold evaluate at shallow ⊢
  cases found : expr.token with
  | error failure =>
    rw [Expr.token_eq_error_iff.mp found]
    rfl
  | ok root =>
    rw [found] at shallow
    exact plainly_evaluateWithin root evaluationDepth expr writer (shallow root)

section
variable {expr : Expr} {writer : Writer}

/-- Evaluation that does not go too deep comes to the meaning of the tree, unless a numeral is too
long to be traced. -/
theorem evaluate_cases (shallow : ∀ root, (evaluate expr writer).1 ≠ tooDeep root) :
    (evaluate expr writer).1 = expr.meaning ∨ (evaluate expr writer).1 = .error .overlong := by
  rw [plainly_evaluate shallow]
  exact (evaluatePlainly_cases expr writer).imp_right And.left

/-- Evaluation that does not go too deep, and whose trace can be written, comes to the meaning of
the tree. -/
theorem evaluate_fst (shallow : ∀ root, (evaluate expr writer).1 ≠ tooDeep root)
    (short : writer.debugging = true → expr.NumeralsShort) :
    (evaluate expr writer).1 = expr.meaning := by
  rw [plainly_evaluate shallow, evaluatePlainly_fst short]

/-- A value that a tree is evaluated to is its meaning. -/
theorem meaning_of_evaluate {value : Value} (h : (evaluate expr writer).1 = .ok value) :
    expr.meaning = .ok value := by
  have shallow : ∀ root, (evaluate expr writer).1 ≠ tooDeep root := fun root deep => by
    cases h.symm.trans deep
  rcases evaluate_cases shallow with means | fails
  · rw [← means, h]
  · cases h.symm.trans fails

end

/-- Evaluation that does not hit the nesting limit is plain recursion, with the same value or
failure, the same output and the same indentation. If the trace can be written, a failure is that of
the first faulty node in postorder. -/
theorem evaluate_eq_plainly (expr : Expr) (writer : Writer) :
    (∀ root allowance, (evaluateWithin root allowance expr writer).1 ≠ tooDeep root →
      evaluateWithin root allowance expr writer = evaluatePlainly expr writer) ∧
    ((∀ root, (evaluate expr writer).1 ≠ tooDeep root) →
      evaluate expr writer = evaluatePlainly expr writer) ∧
    ((writer.debugging = true → expr.NumeralsShort) →
      ∀ failure, (evaluatePlainly expr writer).1 = .error failure ↔
        expr.postorder.findSome? Expr.fault? = some failure) := by
  refine ⟨?_, plainly_evaluate, ?_⟩
  · intro root allowance shallow
    exact plainly_evaluateWithin root allowance expr writer shallow
  · intro short failure
    rw [evaluatePlainly_fst short, Expr.findSome?_postorder, Expr.failure?]
    cases expr.meaning <;> simp

/-- A chain that fails at the right operand of its second link, after the first has left its line of
trace. The loop gives back the indentation of both links, and plain recursion does the same. -/
theorem evaluate_chain_fails :
    ∃ chain writer, chain = .binary ⟨.minus, "-", 1⟩
        (.binary ⟨.plus, "+", 1⟩ (.integer ⟨.integerLiteral, "1", 1⟩ 1)
          (.integer ⟨.integerLiteral, "2", 1⟩ 2))
        (.unary ⟨.bang, "!", 2⟩ (.integer ⟨.integerLiteral, "3", 2⟩ 3)) ∧
      writer = ⟨3, true, 1, ""⟩ ∧ evaluate chain writer = evaluatePlainly chain writer ∧
      evaluate chain writer = (.error (.failed ⟨.notBoolean, ⟨.bang, "!", 2⟩⟩),
        ⟨3, true, 1, "      [(+ (IntLit 1) (IntLit 2)) => 3]\n"⟩) ∧
      chain.postorder.findSome? Expr.fault? = some (.failed ⟨.notBoolean, ⟨.bang, "!", 2⟩⟩) := by
  refine ⟨_, _, rfl, rfl, ?_⟩
  have evaluated : evaluate
      (.binary ⟨.minus, "-", 1⟩
        (.binary ⟨.plus, "+", 1⟩ (.integer ⟨.integerLiteral, "1", 1⟩ 1)
          (.integer ⟨.integerLiteral, "2", 1⟩ 2))
        (.unary ⟨.bang, "!", 2⟩ (.integer ⟨.integerLiteral, "3", 2⟩ 3)))
      ⟨3, true, 1, ""⟩ = (.error (.failed ⟨.notBoolean, ⟨.bang, "!", 2⟩⟩),
        ⟨3, true, 1, "      [(+ (IntLit 1) (IntLit 2)) => 3]\n"⟩) := by decide +kernel
  obtain ⟨-, same, faulty⟩ := evaluate_eq_plainly
    (.binary ⟨.minus, "-", 1⟩
      (.binary ⟨.plus, "+", 1⟩ (.integer ⟨.integerLiteral, "1", 1⟩ 1)
        (.integer ⟨.integerLiteral, "2", 1⟩ 2))
      (.unary ⟨.bang, "!", 2⟩ (.integer ⟨.integerLiteral, "3", 2⟩ 3))) ⟨3, true, 1, ""⟩
  have plainly := same fun root deep => by
    rw [evaluated] at deep
    cases deep
  refine ⟨plainly, evaluated, (faulty (fun _ => by decide) _).mp ?_⟩
  rw [← plainly, evaluated]

end Abacus
