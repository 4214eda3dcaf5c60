import Abacus.Evaluation
import Abacus.Proofs.Layout
import Abacus.Text.Word

/-!
# Evaluation by plain recursion

Evaluation told in the plainest way: an operator node evaluates its operands one level further in,
applies its operator and leaves its line of trace. What a tree evaluates to does not depend on the
writer, so it is a function of the tree alone, as long as the trace can be written. It fails with
what is wrong at the first node, from left to right and operands before operators, at which
something is wrong by itself.

Results:
1. `Expr.findSome?_postorder`: the failure is that of the first faulty node in postorder.
2. `evaluatePlainly_of_not_debugging`: without debugging, the value or failure of a plain evaluation
   is the meaning of the tree, and nothing is written.
3. `evaluatePlainly_fst`: with short numerals, it comes to the meaning of the tree in either mode.
-/

namespace Abacus

/-! ## The plain evaluator -/

/-- The end of an operator node, after its operator has been applied. -/
def finish (node : Expr) (applied : Except EvalError Value) (writer : Writer) :
    Except EvalFailure Value × Writer :=
  match applied with
  | .error error => (.error (.failed error), writer)
  | .ok value => trace node value writer

/-- Two evaluations in turn. After a failure of the first there is no second. -/
def inTurn (first second : Writer → Except EvalFailure Value × Writer) (writer : Writer) :
    Except EvalFailure (Value × Value) × Writer :=
  match first writer with
  | (.error failure, after) => (.error failure, after)
  | (.ok left, between) =>
    match second between with
    | (.error failure, after) => (.error failure, after)
    | (.ok right, after) => (.ok (left, right), after)

/-- Evaluates a tree node by node, to any depth. The operands of a node are evaluated in a block one
level further in, which ends before the operator is applied and also ends when an operand fails. -/
def evaluatePlainly : Evaluator
  | .integer _ value, writer => (.ok (.integer value), writer)
  | .boolean _ value, writer => (.ok (.boolean value), writer)
  | .string _ value, writer => (.ok (.string value), writer)
  | .grouping _ inner, writer => evaluatePlainly inner writer
  | .unary token operand, writer =>
    match writer.indented (evaluatePlainly operand) with
    | (.error failure, after) => (.error failure, after)
    | (.ok value, after) => finish (.unary token operand) (token.applyUnary value) after
  | .binary token left right, writer =>
    match writer.indented (inTurn (evaluatePlainly left) (evaluatePlainly right)) with
    | (.error failure, after) => (.error failure, after)
    | (.ok (first, second), after) =>
      finish (.binary token left right) (token.applyBinary first second) after
  | .foreign typeName, writer => (.error (.foreign ⟨typeName⟩), writer)

section
variable {token : Token} {operand left right : Expr} {writer between after : Writer}
  {failure : EvalFailure} {value leftValue rightValue : Value}

/-- A node with an operand that fails gives its indentation back. -/
theorem evaluatePlainly_operandFails
    (h : evaluatePlainly operand writer.indent = (.error failure, after)) :
    evaluatePlainly (.unary token operand) writer = (.error failure, after.dedent) := by
  rw [evaluatePlainly, Writer.indented_eq h]

theorem evaluatePlainly_unary (h : evaluatePlainly operand writer.indent = (.ok value, after)) :
    evaluatePlainly (.unary token operand) writer =
      finish (.unary token operand) (token.applyUnary value) after.dedent := by
  rw [evaluatePlainly, Writer.indented_eq h]

theorem evaluatePlainly_leftFails
    (h : evaluatePlainly left writer.indent = (.error failure, after)) :
    evaluatePlainly (.binary token left right) writer = (.error failure, after.dedent) := by
  have both : inTurn (evaluatePlainly left) (evaluatePlainly right) writer.indent =
      (.error failure, after) := by simp [inTurn, h]
  rw [evaluatePlainly, Writer.indented_eq both]

theorem evaluatePlainly_rightFails
    (first : evaluatePlainly left writer.indent = (.ok leftValue, between))
    (second : evaluatePlainly right between = (.error failure, after)) :
    evaluatePlainly (.binary token left right) writer = (.error failure, after.dedent) := by
  have both : inTurn (evaluatePlainly left) (evaluatePlainly right) writer.indent =
      (.error failure, after) := by simp [inTurn, first, second]
  rw [evaluatePlainly, Writer.indented_eq both]

theorem evaluatePlainly_binary
    (first : evaluatePlainly left writer.indent = (.ok leftValue, between))
    (second : evaluatePlainly right between = (.ok rightValue, after)) :
    evaluatePlainly (.binary token left right) writer =
      finish (.binary token left right) (token.applyBinary leftValue rightValue) after.dedent := by
  have both : inTurn (evaluatePlainly left) (evaluatePlainly right) writer.indent =
      (.ok (leftValue, rightValue), after) := by simp [inTurn, first, second]
  rw [evaluatePlainly, Writer.indented_eq both]

end

/-! ## The meaning of a tree -/

namespace Expr

/-- What a tree evaluates to, on any writer and to any depth. -/
def meaning : Expr → Except EvalFailure Value
  | .integer _ value => .ok (.integer value)
  | .boolean _ value => .ok (.boolean value)
  | .string _ value => .ok (.string value)
  | .grouping _ inner => inner.meaning
  | .unary token operand =>
    operand.meaning.bind fun value => (token.applyUnary value).mapError .failed
  | .binary token left right =>
    left.meaning.bind fun first =>
      right.meaning.bind fun second => (token.applyBinary first second).mapError .failed
  | .foreign typeName => .error (.foreign ⟨typeName⟩)

/-- The nodes of a tree from left to right, each after the nodes below it. -/
def postorder : Expr → List Expr
  | .grouping token inner => inner.postorder ++ [.grouping token inner]
  | .unary token operand => operand.postorder ++ [.unary token operand]
  | .binary token left right =>
    left.postorder ++ right.postorder ++ [.binary token left right]
  | expr => [expr]

/-- What is wrong at a node by itself, with nothing wrong below it: its operator does not take the
values of its operands, or it is no expression. -/
def fault? : Expr → Option EvalFailure
  | .unary token operand =>
    match operand.meaning with
    | .error _ => none
    | .ok value =>
      match token.applyUnary value with
      | .error error => some (.failed error)
      | .ok _ => none
  | .binary token left right =>
    match left.meaning, right.meaning with
    | .ok first, .ok second =>
      match token.applyBinary first second with
      | .error error => some (.failed error)
      | .ok _ => none
    | _, _ => none
  | .foreign typeName => some (.foreign ⟨typeName⟩)
  | _ => none

/-- The failure of a tree, if it has no value. -/
def failure? (expr : Expr) : Option EvalFailure :=
  match expr.meaning with
  | .error failure => some failure
  | .ok _ => none

end Expr

theorem bind_eq_ok {ε α β : Type} {x : Except ε α} {f : α → Except ε β} {b : β} :
    x.bind f = .ok b ↔ ∃ a, x = .ok a ∧ f a = .ok b := by
  cases x <;> simp [Except.bind]

/-- All of a tree with a value is expressions. -/
theorem Expr.foreigns_of_meaning {expr : Expr} {value : Value} (h : expr.meaning = .ok value) :
    expr.foreigns = [] := by
  induction expr generalizing value with
  | integer | boolean | string => rfl
  | grouping token inner ih => exact ih h
  | unary token operand ih =>
    obtain ⟨inner, below, -⟩ := bind_eq_ok.mp h
    exact ih below
  | binary token left right first second =>
    obtain ⟨leftValue, before, rest⟩ := bind_eq_ok.mp h
    obtain ⟨rightValue, behind, -⟩ := bind_eq_ok.mp rest
    rw [foreigns, first before, second behind, List.append_nil]
  | «foreign» typeName => cases h

section
variable {token : Token} {operand left right : Expr} {failure : EvalFailure}
  {value leftValue rightValue : Value}

theorem Expr.meaning_operandFails (below : operand.meaning = .error failure) :
    (Expr.unary token operand).meaning = .error failure := by
  rw [meaning, below]
  rfl

theorem Expr.meaning_unary (below : operand.meaning = .ok value) :
    (Expr.unary token operand).meaning = (token.applyUnary value).mapError .failed := by
  rw [meaning, below]
  rfl

theorem Expr.meaning_leftFails (before : left.meaning = .error failure) :
    (Expr.binary token left right).meaning = .error failure := by
  rw [meaning, before]
  rfl

theorem Expr.meaning_rightFails (before : left.meaning = .ok leftValue)
    (behind : right.meaning = .error failure) :
    (Expr.binary token left right).meaning = .error failure := by
  rw [meaning, before, behind]
  rfl

theorem Expr.meaning_binary (before : left.meaning = .ok leftValue)
    (behind : right.meaning = .ok rightValue) :
    (Expr.binary token left right).meaning =
      (token.applyBinary leftValue rightValue).mapError .failed := by
  rw [meaning, before, behind]
  rfl

end

/-- The failure of a tree is that of the first node in postorder at which something is wrong. -/
theorem Expr.findSome?_postorder (expr : Expr) :
    expr.postorder.findSome? Expr.fault? = expr.failure? := by
  induction expr with
  | integer | boolean | string => rfl
  | grouping token inner ih =>
    rw [postorder, List.findSome?_append, ih]
    exact Option.or_none
  | unary token operand ih =>
    rw [postorder, List.findSome?_append, ih, List.findSome?_singleton]
    cases below : operand.meaning with
    | error failure =>
      rw [failure?, failure?, below, meaning_operandFails below]
      rfl
    | ok value =>
      rw [failure?, failure?, fault?, below, meaning_unary below]
      dsimp only
      cases token.applyUnary value <;> rfl
  | binary token left right first second =>
    rw [postorder, List.findSome?_append, List.findSome?_append, first, second,
      List.findSome?_singleton]
    cases before : left.meaning with
    | error failure =>
      rw [failure?, failure?, failure?, before, meaning_leftFails before]
      rfl
    | ok leftValue =>
      cases behind : right.meaning with
      | error failure =>
        rw [failure?, failure?, failure?, before, behind, meaning_rightFails before behind]
        rfl
      | ok rightValue =>
        rw [failure?, failure?, failure?, fault?, before, behind, meaning_binary before behind]
        dsimp only
        cases token.applyBinary leftValue rightValue <;> rfl
  | «foreign» typeName => rfl

/-! ## Results of operators -/

/-- An integer in range, a truth value, or a string without a quote. -/
def Value.Regular : Value → Prop
  | .integer n => Integer.fits n = true
  | .boolean _ => True
  | .string text => ∀ c ∈ text.toList, Text.isQuote c = false

theorem regular_of_checked {result : Int} {value : Value} (h : checked result = .ok value) :
    value.Regular := by
  unfold checked at h
  split at h
  · cases h
    assumption
  · cases h

/-- An operator in front of an operand has regular results, whatever the operand. -/
theorem UnaryOp.apply_regular {op : UnaryOp} {operand value : Value}
    (h : op.apply operand = .ok value) : value.Regular := by
  cases op with
  | not =>
    cases operand <;> cases h
    trivial
  | negate =>
    cases operand with
    | integer n => exact regular_of_checked h
    | boolean | string => cases h

/-- So has an operator between operands. -/
theorem BinaryOp.apply_regular {op : BinaryOp} {left right value : Value}
    (h : op.apply left right = .ok value) : value.Regular := by
  cases op with
  | arithmetic op =>
    cases left <;> cases right <;> try cases h
    obtain ⟨-, fits, rfl⟩ := Arithmetic.apply_eq_ok_iff.mp h
    exact fits
  | comparison op =>
    cases left <;> cases right <;> cases h
    trivial
  | equality op =>
    cases left <;> cases right <;> cases h <;> trivial

theorem mapError_eq_ok {ε ε' α : Type} {x : Except ε α} {change : ε → ε'} {a : α} :
    x.mapError change = .ok a ↔ x = .ok a := by
  cases x with
  | error own => exact ⟨nofun, nofun⟩
  | ok own => exact ⟨fun same => by cases same; rfl, fun same => by cases same; rfl⟩

theorem Token.regular_of_applyUnary {token : Token} {operand value : Value}
    (h : token.applyUnary operand = .ok value) : value.Regular := by
  unfold applyUnary at h
  split at h
  · cases h
  · exact UnaryOp.apply_regular (mapError_eq_ok.mp h)

theorem Token.regular_of_applyBinary {token : Token} {left right value : Value}
    (h : token.applyBinary left right = .ok value) : value.Regular := by
  unfold applyBinary at h
  split at h
  · cases h
  · exact BinaryOp.apply_regular (mapError_eq_ok.mp h)

/-- A regular value is short. -/
theorem Value.Regular.short {value : Value} (regular : value.Regular) : value.Short := by
  cases value with
  | integer n => exact Integer.short_of_fits regular
  | boolean | string => trivial

/-! ## What can be traced -/

/-- With short numerals, a tree has a short value, since the results of operators are in range. -/
theorem Expr.short_of_meaning {expr : Expr} {value : Value} (short : expr.NumeralsShort)
    (h : expr.meaning = .ok value) : value.Short := by
  induction expr with
  | integer token own => cases h; exact short
  | boolean | string => cases h; trivial
  | grouping token inner ih => exact ih short h
  | unary token operand ih =>
    obtain ⟨inner, -, applied⟩ := bind_eq_ok.mp h
    exact (Token.regular_of_applyUnary (mapError_eq_ok.mp applied)).short
  | binary token left right first second =>
    obtain ⟨leftValue, -, rest⟩ := bind_eq_ok.mp h
    obtain ⟨rightValue, -, applied⟩ := bind_eq_ok.mp rest
    exact (Token.regular_of_applyBinary (mapError_eq_ok.mp applied)).short
  | «foreign» typeName => cases h

/-- The line of trace of a tree with a value can be written, unless a numeral is too long. -/
theorem trace_cases {node : Expr} {value : Value} (h : node.meaning = .ok value)
    (writer : Writer) :
    (trace node value writer).1 = .ok value ∨
      (trace node value writer).1 = .error .overlong ∧ ¬node.NumeralsShort := by
  by_cases on : writer.debugging = true
  · rw [trace, if_pos on, Expr.print, Style.write_eq_layout]
    rcases Style.tree.layout_cases (Expr.foreigns_of_meaning h) with ⟨text, written⟩ | ⟨fails, long⟩
    · rw [written]
      cases shown : value.display? with
      | some display => exact .inl rfl
      | none =>
        refine .inr ⟨rfl, fun short => ?_⟩
        cases shown.symm.trans (Value.display?_of_short (Expr.short_of_meaning short h))
    · rw [fails]
      exact .inr ⟨rfl, long⟩
  · exact .inl (congrArg Prod.fst (trace_eq_of_not_debugging on node value))

/-- The end of a node comes to what its operator comes to, unless a numeral is too long. -/
theorem finish_cases {node : Expr} {applied : Except EvalError Value}
    (h : node.meaning = applied.mapError .failed) (writer : Writer) :
    (finish node applied writer).1 = node.meaning ∨
      (finish node applied writer).1 = .error .overlong ∧ ¬node.NumeralsShort := by
  cases applied with
  | error error => exact .inl h.symm
  | ok value =>
    rw [h]
    exact trace_cases h writer

/-! ## What a plain evaluation comes to -/

/-- A plain evaluation comes to the meaning of the tree, unless a numeral is too long. -/
theorem evaluatePlainly_cases (expr : Expr) (writer : Writer) :
    (evaluatePlainly expr writer).1 = expr.meaning ∨
      (evaluatePlainly expr writer).1 = .error .overlong ∧ ¬expr.NumeralsShort := by
  induction expr generalizing writer with
  | integer | boolean | string | «foreign» => exact .inl rfl
  | grouping token inner ih => exact ih writer
  | unary token operand ih =>
    have below := ih writer.indent
    cases eq : evaluatePlainly operand writer.indent with
    | mk outcome after =>
      rw [eq] at below
      rcases below with means | ⟨fails, long⟩
      · cases outcome with
        | error failure =>
          rw [evaluatePlainly_operandFails eq, Expr.meaning_operandFails means.symm]
          exact .inl rfl
        | ok value =>
          rw [evaluatePlainly_unary eq]
          exact finish_cases (Expr.meaning_unary means.symm) after.dedent
      · cases fails
        rw [evaluatePlainly_operandFails eq]
        exact .inr ⟨rfl, long⟩
  | binary token left right first second =>
    have before := first writer.indent
    cases leftEq : evaluatePlainly left writer.indent with
    | mk leftOutcome between =>
      rw [leftEq] at before
      rcases before with leftMeans | ⟨fails, long⟩
      · cases leftOutcome with
        | error failure =>
          rw [evaluatePlainly_leftFails leftEq, Expr.meaning_leftFails leftMeans.symm]
          exact .inl rfl
        | ok leftValue =>
          have behind := second between
          cases rightEq : evaluatePlainly right between with
          | mk rightOutcome after =>
            rw [rightEq] at behind
            rcases behind with rightMeans | ⟨fails, long⟩
            · cases rightOutcome with
              | error failure =>
                rw [evaluatePlainly_rightFails leftEq rightEq,
                  Expr.meaning_rightFails leftMeans.symm rightMeans.symm]
                exact .inl rfl
              | ok rightValue =>
                rw [evaluatePlainly_binary leftEq rightEq]
                exact finish_cases (Expr.meaning_binary leftMeans.symm rightMeans.symm) after.dedent
            · cases fails
              rw [evaluatePlainly_rightFails leftEq rightEq]
              exact .inr ⟨rfl, fun short => long short.2⟩
      · cases fails
        rw [evaluatePlainly_leftFails leftEq]
        exact .inr ⟨rfl, fun short => long short.1⟩

section
variable {writer : Writer}

/-- Without debugging, the end of an operator node is what its operator comes to. -/
theorem finish_of_not_debugging (off : ¬writer.debugging = true) (node : Expr)
    (applied : Except EvalError Value) :
    finish node applied writer = (applied.mapError .failed, writer) := by
  cases applied with
  | error error => rfl
  | ok value => exact trace_eq_of_not_debugging off node value

/-- Without debugging, a plain evaluation is the meaning of the tree and writes nothing. -/
theorem evaluatePlainly_of_not_debugging (off : ¬writer.debugging = true) (expr : Expr) :
    evaluatePlainly expr writer = (expr.meaning, writer) := by
  have indent : writer.indent = writer := by simp [Writer.indent, off]
  -- To be one level further in is to be where one was.
  have inside : ∀ {part}, evaluatePlainly part writer = (part.meaning, writer) →
      evaluatePlainly part writer.indent = (part.meaning, writer.indent) := by
    intro part own
    rw [indent, own]
  induction expr with
  | integer | boolean | string | «foreign» => rfl
  | grouping token inner ih => exact ih
  | unary token operand ih =>
    have within := inside ih
    cases below : operand.meaning with
    | error failure =>
      rw [below] at within
      rw [evaluatePlainly_operandFails within, Writer.indent_dedent,
        Expr.meaning_operandFails below]
    | ok value =>
      rw [below] at within
      rw [evaluatePlainly_unary within, Writer.indent_dedent, finish_of_not_debugging off,
        Expr.meaning_unary below]
  | binary token left right first second =>
    have withinLeft := inside first
    have withinRight := inside second
    cases before : left.meaning with
    | error failure =>
      rw [before] at withinLeft
      rw [evaluatePlainly_leftFails withinLeft, Writer.indent_dedent,
        Expr.meaning_leftFails before]
    | ok leftValue =>
      rw [before] at withinLeft
      cases behind : right.meaning with
      | error failure =>
        rw [behind] at withinRight
        rw [evaluatePlainly_rightFails withinLeft withinRight, Writer.indent_dedent,
          Expr.meaning_rightFails before behind]
      | ok rightValue =>
        rw [behind] at withinRight
        rw [evaluatePlainly_binary withinLeft withinRight, Writer.indent_dedent,
          finish_of_not_debugging off, Expr.meaning_binary before behind]

end

/-- With short numerals, a plain evaluation comes to the meaning of the tree in either mode. -/
theorem evaluatePlainly_fst {expr : Expr} {writer : Writer}
    (short : writer.debugging = true → expr.NumeralsShort) :
    (evaluatePlainly expr writer).1 = expr.meaning := by
  by_cases on : writer.debugging = true
  · exact (evaluatePlainly_cases expr writer).resolve_right fun fails => fails.2 (short on)
  · rw [evaluatePlainly_of_not_debugging on]

end Abacus
