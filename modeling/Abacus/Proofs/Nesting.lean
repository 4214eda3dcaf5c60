import Abacus.Proofs.Course
import Abacus.Proofs.Typing

/-!
# How deep evaluation goes

Evaluation follows nested nodes only so far. A left spine is taken apart without going any deeper,
so a binary node lies as deep as the binary node whose left operand it is. Every other operand of a
binary node lies two calls deeper than its node, one for the node and one for the loop over its
spine, and an operand of any other node one. Told in this way, evaluation within an allowance is a
plain recursion, and whether it goes too deep can be told from the tree alone: it does if it comes
to a node that lies too deep before any node has failed. A writer makes no difference to that, as
long as the trace can be written.

Results:
1. `evaluateWithin_binary`: a left operand on the spine keeps the allowance of its node.
2. `evaluateWithin_eq_tooDeep_iff`: when evaluation goes too deep.
3. `Expr.Reaches.not_exceeds`: a node that evaluation comes to can be evaluated by itself.
4. `Expr.not_exceeds_of_nesting_le`: a tree that is nested no deeper than the allowance does not
   exceed it.
-/

namespace Abacus

/-! ## Plain recursion within an allowance -/

/-- Whether a node is a binary one, so that it goes on with a spine as a left operand. -/
def Expr.isBinary : Expr → Bool
  | .binary .. => true
  | _ => false

/-- What is left of an allowance for the left operand of a binary node that has two more. -/
def Expr.spineAllowance (left : Expr) (allowance : Nat) : Nat :=
  if left.isBinary then allowance + 2 else allowance

section
variable (root : Token) (allowance : Nat) (token : Token) (left right : Expr) (writer : Writer)

/-- A binary node is evaluated by going down the spine that it is the top of. -/
theorem evaluateWithin_eq_ascend :
    evaluateWithin root (allowance + 2) (.binary token left right) writer =
      ascend (evaluateWithin root allowance) (spine left [⟨token, left, right⟩]).2
        (evaluateWithin root allowance (spine left [⟨token, left, right⟩]).1
          (writer.indentBy (spine left [⟨token, left, right⟩]).2.length)) := by
  rw [evaluateWithin, spine]
  dsimp only
  cases evaluateWithin root allowance (spine left [⟨token, left, right⟩]).1
      (writer.indentBy (spine left [⟨token, left, right⟩]).2.length) with
  | mk outcome after => cases outcome <;> rfl

theorem ascend_single (outcome : Except EvalFailure Value × Writer) :
    ascend (evaluateWithin root allowance) [⟨token, left, right⟩] outcome =
      Link.resume (evaluateWithin root allowance) ⟨token, left, right⟩ outcome := by
  rw [ascend_cons, ascend_nil]

end

/-- Going down a spine and up its links is evaluating the node at its top. -/
theorem ascend_spine (root : Token) (allowance : Nat) (expr : Expr) (links : List Link)
    (writer : Writer) :
    ascend (evaluateWithin root allowance) (spine expr links).2
        (evaluateWithin root allowance (spine expr links).1
          (writer.indentBy (spine expr links).2.length)) =
      ascend (evaluateWithin root allowance) links
        (evaluateWithin root (expr.spineAllowance allowance) expr
          (writer.indentBy links.length)) := by
  induction expr generalizing links writer with
  | binary token left right ih =>
    -- Evaluated from the top of a spine, the left operand has met one link; here, it has met more.
    have top : ∀ start, evaluateWithin root (allowance + 2) (.binary token left right) start =
        Link.resume (evaluateWithin root allowance) ⟨token, left, right⟩
          (evaluateWithin root (left.spineAllowance allowance) left start.indent) := by
      intro start
      rw [evaluateWithin_eq_ascend, ih, ascend_single]
      rfl
    rw [spine, ih, ascend_cons, List.length_cons, Writer.indentBy_succ]
    exact congrArg _ (top _).symm
  | _ => rfl

/-- A binary node is evaluated by plain recursion. A left operand that goes on with the spine keeps
the allowance of its node. -/
theorem evaluateWithin_binary (root : Token) (allowance : Nat) (token : Token) (left right : Expr)
    (writer : Writer) :
    evaluateWithin root (allowance + 2) (.binary token left right) writer =
      Link.resume (evaluateWithin root allowance) ⟨token, left, right⟩
        (evaluateWithin root (left.spineAllowance allowance) left writer.indent) := by
  rw [evaluateWithin_eq_ascend, ascend_spine, ascend_single]
  rfl

/-! ## When evaluation goes too deep -/

/-- Whether evaluation comes to a node that lies deeper than the allowance before any node fails. -/
def Expr.Exceeds : Expr → Nat → Prop
  | _, 0 => True
  | .grouping _ inner, allowance + 1 => inner.Exceeds allowance
  | .unary _ operand, allowance + 1 => operand.Exceeds allowance
  | .binary _ _ _, 1 => True
  | .binary _ left right, allowance + 2 =>
    left.Exceeds (left.spineAllowance allowance) ∨
      (∃ value, left.meaning = .ok value) ∧ right.Exceeds allowance
  | _, _ + 1 => False

/-! An operator fails for what its operands are, never for how deep it lies. -/

theorem checked_ne_tooDeep (result : Int) : checked result ≠ .error .nestedTooDeeply := by
  unfold checked
  split <;> simp

theorem UnaryOp.apply_ne_tooDeep (op : UnaryOp) (operand : Value) :
    op.apply operand ≠ .error .nestedTooDeeply := by
  cases op <;> cases operand <;> first | exact checked_ne_tooDeep _ | simp [apply]

theorem BinaryOp.apply_ne_tooDeep (op : BinaryOp) (left right : Value) :
    op.apply left right ≠ .error .nestedTooDeeply := by
  cases op with
  | arithmetic op =>
    cases left <;> cases right <;> try simp [apply]
    unfold Arithmetic.apply
    split
    · simp
    · exact checked_ne_tooDeep _
  | comparison op => cases left <;> cases right <;> simp [apply]
  | equality op => cases left <;> cases right <;> simp [apply]

theorem mapError_ne_error {applied : Except EvalError.Cause Value} {cause : EvalError.Cause}
    {token root : Token} (other : applied ≠ .error cause) :
    applied.mapError (⟨·, token⟩) ≠ Except.error (⟨cause, root⟩ : EvalError) := by
  cases applied with
  | error own =>
    intro same
    cases same
    exact other rfl
  | ok value => simp [Except.mapError]

theorem Token.applyUnary_ne_tooDeep (token root : Token) (operand : Value) :
    token.applyUnary operand ≠ .error ⟨.nestedTooDeeply, root⟩ := by
  unfold applyUnary
  split
  · simp
  · exact mapError_ne_error (UnaryOp.apply_ne_tooDeep _ operand)

theorem Token.applyBinary_ne_tooDeep (token root : Token) (left right : Value) :
    token.applyBinary left right ≠ .error ⟨.nestedTooDeeply, root⟩ := by
  unfold applyBinary
  split
  · simp
  · exact mapError_ne_error (BinaryOp.apply_ne_tooDeep _ left right)

theorem finish_ne_tooDeep {node : Expr} {applied : Except EvalError Value} {root : Token}
    (other : applied ≠ .error ⟨.nestedTooDeeply, root⟩) (writer : Writer) :
    (finish node applied writer).1 ≠ tooDeep root := by
  cases applied with
  | error error =>
    intro deep
    cases deep
    exact other rfl
  | ok value =>
    show (trace node value writer).1 ≠ _
    unfold trace
    split
    · rcases node.print with (_ | _) | _
      · simp [tooDeep, Unwritten.failure]
      · simp [tooDeep, Unwritten.failure]
      · cases value.display? <;> simp [tooDeep]
    · simp [tooDeep]

/-- Evaluation that does not go too deep comes to the meaning of the tree, unless a numeral is too
long to be traced. -/
theorem evaluateWithin_fst {root : Token} {allowance : Nat} {expr : Expr} {writer : Writer}
    (shallow : (evaluateWithin root allowance expr writer).1 ≠ tooDeep root)
    (clear : (evaluateWithin root allowance expr writer).1 ≠ .error .overlong) :
    (evaluateWithin root allowance expr writer).1 = expr.meaning := by
  rw [plainly_evaluateWithin root allowance expr writer shallow] at clear ⊢
  exact (evaluatePlainly_cases expr writer).resolve_right fun fails => clear fails.1

/-- Unless a numeral is too long to be traced, evaluation goes too deep exactly if it comes to a
node that lies too deep before any node has failed. -/
theorem evaluateWithin_eq_tooDeep_iff {root : Token} {allowance : Nat} {expr : Expr}
    {writer : Writer} (clear : (evaluateWithin root allowance expr writer).1 ≠ .error .overlong) :
    (evaluateWithin root allowance expr writer).1 = tooDeep root ↔ expr.Exceeds allowance := by
  induction expr generalizing allowance writer with
  | integer | boolean | string | «foreign» =>
    cases allowance <;> simp [evaluateWithin, Expr.Exceeds, tooDeep]
  | grouping token inner ih =>
    cases allowance with
    | zero => simp [evaluateWithin, Expr.Exceeds, tooDeep]
    | succ allowance => exact ih clear
  | unary token operand ih =>
    cases allowance with
    | zero => simp [evaluateWithin, Expr.Exceeds, tooDeep]
    | succ allowance =>
      rw [evaluateWithin] at clear ⊢
      have inside := @ih allowance writer.indent
      cases below : evaluateWithin root allowance operand writer.indent with
      | mk outcome after =>
        rw [Writer.indented_eq below] at clear ⊢
        rw [below] at inside
        cases outcome with
        | error failure => exact inside clear
        | ok value =>
          rw [Expr.Exceeds, ← inside (by simp)]
          refine iff_of_false ?_ (by simp [tooDeep])
          exact finish_ne_tooDeep (token.applyUnary_ne_tooDeep root value) after.dedent
  | binary token left right first second =>
    rcases allowance with _ | _ | allowance
    · simp [evaluateWithin, Expr.Exceeds, tooDeep]
    · simp [evaluateWithin, Expr.Exceeds, tooDeep]
    · have means := @evaluateWithin_fst root (left.spineAllowance allowance) left writer.indent
      have inLeft := @first (left.spineAllowance allowance) writer.indent
      rw [evaluateWithin_binary] at clear ⊢
      rw [Expr.Exceeds]
      cases before : evaluateWithin root (left.spineAllowance allowance) left writer.indent with
      | mk outcome between =>
        rw [before] at means inLeft clear
        cases outcome with
        | error failure =>
          rw [← inLeft clear]
          refine ⟨.inl, fun exceeds => ?_⟩
          rcases exceeds with deep | ⟨⟨value, ok⟩, -⟩
          · exact deep
          · -- The left operand fails, so it has no value, unless it has gone too deep itself.
            by_contra shallow
            cases (means shallow clear).trans ok
        | ok value =>
          have ok : left.meaning = .ok value := (means (by simp [tooDeep]) (by simp)).symm
          have only : (Except.ok value = tooDeep root ∨
              (∃ value, left.meaning = .ok value) ∧ right.Exceeds allowance) ↔
              right.Exceeds allowance := by simp [ok, tooDeep]
          have inRight := @second allowance between
          rw [← inLeft (by simp), only]
          rw [Link.resume] at clear ⊢
          cases behind : evaluateWithin root allowance right between with
          | mk outcome after =>
            rw [behind] at inRight clear
            cases outcome with
            | error failure => exact inRight clear
            | ok other =>
              rw [← inRight (by simp)]
              refine iff_of_false ?_ (by simp [tooDeep])
              exact finish_ne_tooDeep (token.applyBinary_ne_tooDeep root value other) after.dedent

/-- What goes deeper than an allowance goes deeper than any smaller one. -/
theorem Expr.Exceeds.mono {expr : Expr} {small large : Nat} (h : expr.Exceeds large)
    (le : small ≤ large) : expr.Exceeds small := by
  induction expr generalizing small large with
  | integer | boolean | string | «foreign» =>
    cases small with
    | zero => trivial
    | succ small =>
      cases large with
      | zero => cases le
      | succ large => exact h
  | grouping token inner ih | unary token inner ih =>
    cases small with
    | zero => trivial
    | succ small =>
      cases large with
      | zero => cases le
      | succ large => exact ih h (Nat.le_of_succ_le_succ le)
  | binary token left right first second =>
    match small, large with
    | 0, _ | 1, _ => trivial
    | small + 2, 0 | small + 2, 1 => omega
    | small + 2, large + 2 =>
      rcases h with deep | ⟨ok, deep⟩
      · refine .inl (first deep ?_)
        unfold spineAllowance
        split <;> omega
      · exact .inr ⟨ok, second deep (by omega)⟩

/-- A node that evaluation comes to does not go deeper than the allowance if the tree does not. -/
theorem Expr.Reaches.not_exceeds {expr node : Expr} {allowance : Nat} (h : expr.Reaches node)
    (within : ¬ expr.Exceeds allowance) : ¬ node.Exceeds allowance := by
  induction h generalizing allowance with
  | self => exact within
  | inner _ ih | operand _ ih =>
    cases allowance with
    | zero => exact absurd trivial within
    | succ allowance => exact fun deep => ih within (deep.mono (Nat.le_succ allowance))
  | @left token left right node _ ih =>
    match allowance with
    | 0 | 1 => exact absurd trivial within
    | allowance + 2 =>
      refine fun deep => ih (fun below => within (.inl below)) (deep.mono ?_)
      unfold spineAllowance
      split <;> omega
  | right ok _ ih =>
    match allowance with
    | 0 | 1 => exact absurd trivial within
    | allowance + 2 =>
      exact fun deep => ih (fun below => within (.inr ⟨⟨_, ok⟩, below⟩)) (deep.mono (by omega))

/-! ## Whole trees -/

theorem mapError_failed_ne_tooDeep {applied : Except EvalError Value} {root : Token}
    (other : applied ≠ .error ⟨.nestedTooDeeply, root⟩) :
    applied.mapError .failed ≠ tooDeep root := by
  cases applied with
  | error error =>
    intro deep
    cases deep
    exact other rfl
  | ok value => simp [Except.mapError, tooDeep]

/-- The meaning of a tree is never that it is nested too deeply. -/
theorem Expr.meaning_ne_tooDeep (expr : Expr) (root : Token) : expr.meaning ≠ tooDeep root := by
  induction expr with
  | integer | boolean | string | «foreign» => simp [meaning, tooDeep]
  | grouping token inner ih => exact ih
  | unary token operand ih =>
    cases below : operand.meaning with
    | error failure => rwa [meaning_operandFails below, ← below]
    | ok value =>
      rw [meaning_unary below]
      exact mapError_failed_ne_tooDeep (token.applyUnary_ne_tooDeep root value)
  | binary token left right first second =>
    cases before : left.meaning with
    | error failure => rwa [meaning_leftFails before, ← before]
    | ok value =>
      cases behind : right.meaning with
      | error failure => rwa [meaning_rightFails before behind, ← behind]
      | ok other =>
        rw [meaning_binary before behind]
        exact mapError_failed_ne_tooDeep (token.applyBinary_ne_tooDeep root value other)

/-- The meaning of a tree is never that a numeral is too long. -/
theorem Expr.meaning_ne_overlong (expr : Expr) : expr.meaning ≠ .error .overlong := by
  induction expr with
  | integer | boolean | string | «foreign» => simp [meaning]
  | grouping token inner ih => exact ih
  | unary token operand ih =>
    cases below : operand.meaning with
    | error failure => rwa [meaning_operandFails below, ← below]
    | ok value =>
      rw [meaning_unary below]
      cases token.applyUnary value <;> simp [Except.mapError]
  | binary token left right first second =>
    cases before : left.meaning with
    | error failure => rwa [meaning_leftFails before, ← before]
    | ok value =>
      cases behind : right.meaning with
      | error failure => rwa [meaning_rightFails before behind, ← behind]
      | ok other =>
        rw [meaning_binary before behind]
        cases token.applyBinary value other <;> simp [Except.mapError]

section
variable {expr : Expr} {writer : Writer}

/-- An evaluation whose trace can be written does not fail for that. -/
theorem evaluateWithin_ne_overlong (root : Token) (allowance : Nat)
    (short : writer.debugging = true → expr.NumeralsShort) :
    (evaluateWithin root allowance expr writer).1 ≠ .error .overlong := by
  by_cases deep : (evaluateWithin root allowance expr writer).1 = tooDeep root
  · rw [deep]
    simp [tooDeep]
  · rw [plainly_evaluateWithin root allowance expr writer deep, evaluatePlainly_fst short]
    exact expr.meaning_ne_overlong

/-- A tree whose evaluation does not go too deep does not exceed the depth of evaluation. -/
theorem within_of_shallow (shallow : ∀ root, (evaluate expr writer).1 ≠ tooDeep root)
    (short : writer.debugging = true → expr.NumeralsShort) : ¬ expr.Exceeds evaluationDepth := by
  intro exceeds
  cases found : expr.token with
  | error failure =>
    rw [Expr.token_eq_error_iff.mp found] at exceeds
    exact exceeds
  | ok root =>
    refine shallow root ?_
    rw [evaluate, found]
    have clear := evaluateWithin_ne_overlong root evaluationDepth short
    exact (evaluateWithin_eq_tooDeep_iff clear).mpr exceeds

/-- The evaluation of a tree that does not exceed the depth of evaluation does not go too deep. -/
theorem shallow_of_within (within : ¬ expr.Exceeds evaluationDepth) (writer : Writer)
    (root : Token) : (evaluate expr writer).1 ≠ tooDeep root := by
  unfold evaluate
  cases found : expr.token with
  | error failure => simp [tooDeep]
  | ok own =>
    have here : (evaluateWithin own evaluationDepth expr writer).1 ≠ tooDeep own := fun deep =>
      within ((evaluateWithin_eq_tooDeep_iff (by rw [deep]; simp [tooDeep])).mp deep)
    intro deep
    have means := evaluateWithin_fst here (by rw [deep]; simp [tooDeep])
    exact expr.meaning_ne_tooDeep root (means.symm.trans deep)

/-- A tree that does not exceed the depth of evaluation comes to its meaning on every writer, if the
trace can be written. -/
theorem evaluate_fst_of_within (within : ¬ expr.Exceeds evaluationDepth) (writer : Writer)
    (short : writer.debugging = true → expr.NumeralsShort) :
    (evaluate expr writer).1 = expr.meaning :=
  evaluate_fst (shallow_of_within within writer) short

/-- Where evaluation does not go too deep, each node that it comes to evaluates to its meaning by
itself. -/
theorem Expr.Reaches.evaluate_fst {node : Expr} (h : expr.Reaches node)
    (shallow : ∀ root, (evaluate expr writer).1 ≠ tooDeep root)
    (short : writer.debugging = true → expr.NumeralsShort) :
    (evaluate node writer).1 = node.meaning :=
  evaluate_fst_of_within (h.not_exceeds (within_of_shallow shallow short)) writer
    fun on => h.short (short on)

end

/-! ## Nesting -/

namespace Expr

/-- How many calls lie within one another. A binary node takes two, for itself and for its spine; as
a left operand it lies on the spine of its node, and takes none of its own. -/
def nesting : Expr → Nat
  | .grouping _ inner => inner.nesting + 1
  | .unary _ operand => operand.nesting + 1
  | .binary _ left right =>
    max (if left.isBinary then left.nesting else left.nesting + 2) (right.nesting + 2)
  | _ => 1

/-- A tree that is nested no deeper than the allowance does not exceed it. -/
theorem not_exceeds_of_nesting_le {expr : Expr} {allowance : Nat}
    (le : expr.nesting ≤ allowance) : ¬ expr.Exceeds allowance := by
  induction expr generalizing allowance with
  | integer | boolean | string | «foreign» =>
    cases allowance with
    | zero => cases le
    | succ allowance => exact id
  | grouping token inner ih | unary token operand ih =>
    cases allowance with
    | zero => cases le
    | succ allowance => exact ih (Nat.le_of_succ_le_succ le)
  | binary token left right first second =>
    rw [nesting] at le
    obtain ⟨leftLe, rightLe⟩ := Nat.max_le.mp le
    match allowance with
    | 0 | 1 => omega
    | allowance + 2 =>
      rintro (deep | ⟨-, deep⟩)
      · refine first ?_ deep
        unfold spineAllowance
        split at leftLe
        · rwa [if_pos ‹_›]
        · rw [if_neg ‹_›]
          exact Nat.le_of_add_le_add_right leftLe
      · exact second (Nat.le_of_add_le_add_right rightLe) deep

end Expr

end Abacus
