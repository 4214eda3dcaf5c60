import Abacus.Expr.Display
import Abacus.Value
import Abacus.Writer

/-!
# Evaluation

An expression is evaluated from left to right and always completely: both operands come before
their operator, and the first node that fails decides. When the writer is debugging, each operator
node leaves a line of trace behind with what it was reduced to, indented by the number of operator
nodes around it.

A binary node, its left operand if that is a binary node too, and so on form a left spine. It is
taken apart and reduced from its innermost node on, so that a chain of operators may have any
length. All other operands nest. Each node around an operand takes one of the calls that evaluation
may have open at a time, and the node at the top of a spine takes another one for its loop.

Result: `trace_eq_of_not_debugging`: without debugging there is no trace, and it cannot fail.
-/

namespace Abacus

/-- Why an evaluation ended without a value. -/
inductive EvalFailure where
  | failed (error : EvalError)
  | foreign (failure : Foreign)
  /-- A line of trace would hold a numeral that is too long. -/
  | overlong
  deriving DecidableEq, Repr

/-- A tree that cannot be written leaves no line of trace. -/
def Unwritten.failure : Unwritten → EvalFailure
  | .foreign failure => .foreign failure
  | .overlong => .overlong

/-- Evaluates a tree, writing the trace. -/
abbrev Evaluator := Expr → Writer → Except EvalFailure Value × Writer

/-! ## Left spines -/

/-- A binary node of a left spine. -/
structure Link where
  token : Token
  left : Expr
  right : Expr
  deriving DecidableEq, Repr

/-- The node itself. -/
def Link.node (link : Link) : Expr :=
  .binary link.token link.left link.right

/-- The operand at the lower end of a left spine, and the binary nodes above it from the innermost
one on, followed by the links already met. -/
def spine : Expr → List Link → Expr × List Link
  | .binary token left right, links => spine left (⟨token, left, right⟩ :: links)
  | expr, links => (expr, links)

/-! ## Evaluation -/

/-- Leaves the line of trace for a node and its value, if the writer is debugging. -/
def trace (node : Expr) (value : Value) (writer : Writer) : Except EvalFailure Value × Writer :=
  if writer.debugging then
    match node.print with
    | .error failure => (.error failure.failure, writer)
    | .ok text =>
      match value.display? with
      | none => (.error .overlong, writer)
      | some display => (.ok value, writer.debugln ("[" ++ text ++ " => " ++ display ++ "]"))
  else (.ok value, writer)

/-- Reduces the links of a spine from the value of the operand below them. The indentation was
moved in once for each link; a link gives back its share before its operator is applied, and on a
failure the links that are left give back theirs. -/
def reduce (operand : Evaluator) : List Link → Value → Writer → Except EvalFailure Value × Writer
  | [], value, writer => (.ok value, writer)
  | link :: links, left, writer =>
    match operand link.right writer with
    | (.error failure, after) => (.error failure, after.dedentBy (links.length + 1))
    | (.ok right, after) =>
      match link.token.applyBinary left right with
      | .error error => (.error (.failed error), after.dedent.dedentBy links.length)
      | .ok result =>
        match trace link.node result after.dedent with
        | (.error failure, traced) => (.error failure, traced.dedentBy links.length)
        | (.ok value, traced) => reduce operand links value traced

/-- Evaluates a tree within an allowance of calls; one that takes more fails at the given token.
Every node is a call, and a binary node makes a second one, which reduces its spine. -/
def evaluateWithin (root : Token) : Nat → Evaluator
  | 0, _, writer => (.error (.failed ⟨.nestedTooDeeply, root⟩), writer)
  | allowance + 1, expr, writer =>
    match expr with
    | .integer _ value => (.ok (.integer value), writer)
    | .boolean _ value => (.ok (.boolean value), writer)
    | .string _ value => (.ok (.string value), writer)
    | .grouping _ inner => evaluateWithin root allowance inner writer
    | .unary token operand =>
      match writer.indented (evaluateWithin root allowance operand) with
      | (.error failure, after) => (.error failure, after)
      | (.ok value, after) =>
        match token.applyUnary value with
        | .error error => (.error (.failed error), after)
        | .ok result => trace (.unary token operand) result after
    | .binary token left right =>
      match allowance with
      | 0 => (.error (.failed ⟨.nestedTooDeeply, root⟩), writer)
      | allowance + 1 =>
        let (first, links) := spine (.binary token left right) []
        match evaluateWithin root allowance first (writer.indentBy links.length) with
        | (.error failure, after) => (.error failure, after.dedentBy links.length)
        | (.ok value, after) => reduce (evaluateWithin root allowance) links value after
    | .foreign typeName => (.error (.foreign ⟨typeName⟩), writer)

/-- The allowance of calls that evaluation starts with. -/
def evaluationDepth : Nat := callLimit

/-- Evaluates a tree; one that is nested too deeply fails at its root. -/
def evaluate (expr : Expr) (writer : Writer) : Except EvalFailure Value × Writer :=
  match expr.token with
  | .error failure => (.error (.foreign failure), writer)
  | .ok root => evaluateWithin root evaluationDepth expr writer

/-- Without debugging there is no trace, and it cannot fail. -/
theorem trace_eq_of_not_debugging {writer : Writer} (off : ¬writer.debugging = true) (node : Expr)
    (value : Value) : trace node value writer = (.ok value, writer) := by
  rw [trace, if_neg off]

end Abacus
