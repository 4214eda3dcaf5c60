import Mathlib.Data.List.Forall2
import Mathlib.Data.List.TakeWhile
import Abacus.Proofs.Nesting

/-!
# Traces

When the writer is debugging, evaluation leaves one line for each operator node that it reduces. The
lines come in the order in which the nodes are reduced, which is postorder, and end in front of the
first node that fails. How far a line is indented is kept in a counter of the writer, which is moved
in and out around operands; it comes to the number of operator nodes around the node, on top of what
the counter was before.

Results:
1. `Expr.completed_unary` and `Expr.completed_binary`: a node is completed after its operands.
2. `leaves_evaluatePlainly`: what plain evaluation writes when debugging.
3. `evaluate_trace`: what evaluation writes in either mode.
-/

namespace Abacus

/-! ## Places -/

/-- A node of a tree, and how many operator nodes there are around it. -/
structure Place where
  depth : Nat
  node : Expr
  deriving DecidableEq, Repr

namespace Expr

/-- Whether a node is an operator with its operands. -/
def isOperation : Expr → Bool
  | .unary .. | .binary .. => true
  | _ => false

/-- The places of the nodes of a tree in postorder. Parentheses are not operators. -/
def placed : Expr → Nat → List Place
  | .grouping token inner, depth => inner.placed depth ++ [⟨depth, .grouping token inner⟩]
  | .unary token operand, depth => operand.placed (depth + 1) ++ [⟨depth, .unary token operand⟩]
  | .binary token left right, depth =>
    left.placed (depth + 1) ++ right.placed (depth + 1) ++ [⟨depth, .binary token left right⟩]
  | expr, depth => [⟨depth, expr⟩]

end Expr

/-- Whether the node at a place has a value. -/
def Place.hasValue (place : Place) : Bool :=
  place.node.meaning.isOk

/-- The places of the nodes that have values before the first node that fails. -/
def Expr.completed (expr : Expr) (depth : Nat) : List Place :=
  (expr.placed depth).takeWhile Place.hasValue

/-- `TraceLine comesTo size indents place line`: the line of trace of a node, with the spaces of all
levels of indentation in front. -/
def TraceLine (comesTo : Expr → Value → Prop) (size indents : Int) (place : Place) (line : String) :
    Prop :=
  ∃ value text, comesTo place.node value ∧ place.node.print = .ok text ∧
    line = String.ofList (List.replicate (max size 0 * max (indents + place.depth) 0).toNat ' ') ++
      "[" ++ text ++ " => " ++ value.display ++ "]\n"

/-! ## Completed places -/

theorem Place.hasValue_iff {place : Place} :
    place.hasValue = true ↔ ∃ value, place.node.meaning = .ok value := by
  unfold hasValue
  cases place.node.meaning <;> simp [Except.isOk, Except.toBool]

/-- Nothing behind an entry that stops a list from being taken is taken. -/
theorem takeWhile_append_of_stop {α : Type} {keeps : α → Bool} {front : List α}
    (stops : ∃ entry ∈ front, keeps entry = false) (behind : List α) :
    (front ++ behind).takeWhile keeps = front.takeWhile keeps := by
  obtain ⟨entry, mem, stop⟩ := stops
  obtain ⟨before, after, rfl⟩ := List.append_of_mem mem
  induction before with
  | nil => simp [stop]
  | cons first before ih =>
    cases kept : keeps first with
    | true => simpa [kept] using ih (by simp)
    | false => simp [kept]

namespace Expr

section
variable (expr : Expr) (depth : Nat)

/-- The nodes at the places of a tree are its nodes in postorder. -/
theorem placed_node : (expr.placed depth).map Place.node = expr.postorder := by
  induction expr generalizing depth with
  | integer | boolean | string | «foreign» => rfl
  | grouping token inner ih => simp [placed, postorder, ih]
  | unary token operand ih => simp [placed, postorder, ih]
  | binary token left right first second => simp [placed, postorder, first, second]

/-- A tree comes last in its own places. -/
theorem mem_placed : ⟨depth, expr⟩ ∈ expr.placed depth := by
  cases expr <;> simp [placed]

end

section
variable {expr : Expr} {depth : Nat}

theorem node_mem_postorder {place : Place} (mem : place ∈ expr.placed depth) :
    place.node ∈ expr.postorder :=
  expr.placed_node depth ▸ List.mem_map_of_mem mem

theorem hasValue_of_meaning {value : Value} (h : expr.meaning = .ok value) {place : Place}
    (mem : place ∈ expr.placed depth) : place.hasValue = true :=
  Place.hasValue_iff.mpr (completes_of_meaning h place.node (node_mem_postorder mem)).2

/-- A tree with a value has all of its places completed. -/
theorem completed_of_meaning {value : Value} (h : expr.meaning = .ok value) :
    expr.completed depth = expr.placed depth :=
  List.takeWhile_eq_self_iff.mpr fun _ => hasValue_of_meaning h

/-- What is behind a tree with a value is come to. -/
theorem takeWhile_placed {value : Value} (h : expr.meaning = .ok value) (behind : List Place) :
    (expr.placed depth ++ behind).takeWhile Place.hasValue =
      expr.completed depth ++ behind.takeWhile Place.hasValue := by
  rw [List.takeWhile_append_of_pos fun _ => hasValue_of_meaning h, completed_of_meaning h]

/-- What is behind a tree that fails is not come to. -/
theorem takeWhile_placed_of_error {failure : EvalFailure} (h : expr.meaning = .error failure)
    (behind : List Place) :
    (expr.placed depth ++ behind).takeWhile Place.hasValue = expr.completed depth :=
  takeWhile_append_of_stop ⟨_, expr.mem_placed depth, by rw [Place.hasValue, h]; rfl⟩ behind

end

section
variable {token : Token} {operand left right : Expr} {depth : Nat} {failure : EvalFailure}
  {value leftValue rightValue : Value}

/-! A node is completed after its operands, if they have values and it has one. -/

theorem completed_operandFails (below : operand.meaning = .error failure) :
    (Expr.unary token operand).completed depth = operand.completed (depth + 1) :=
  takeWhile_placed_of_error below _

theorem completed_unary (below : operand.meaning = .ok value) :
    (Expr.unary token operand).completed depth =
      operand.completed (depth + 1) ++
        [⟨depth, .unary token operand⟩].takeWhile Place.hasValue :=
  takeWhile_placed below _

theorem completed_leftFails (before : left.meaning = .error failure) :
    (Expr.binary token left right).completed depth = left.completed (depth + 1) := by
  rw [completed, placed, List.append_assoc, takeWhile_placed_of_error before]

theorem completed_rightFails (before : left.meaning = .ok leftValue)
    (behind : right.meaning = .error failure) :
    (Expr.binary token left right).completed depth =
      left.completed (depth + 1) ++ right.completed (depth + 1) := by
  rw [completed, placed, List.append_assoc, takeWhile_placed before,
    takeWhile_placed_of_error behind]

theorem completed_binary (before : left.meaning = .ok leftValue)
    (behind : right.meaning = .ok rightValue) :
    (Expr.binary token left right).completed depth =
      left.completed (depth + 1) ++ right.completed (depth + 1) ++
        [⟨depth, .binary token left right⟩].takeWhile Place.hasValue := by
  rw [completed, placed, List.append_assoc, takeWhile_placed before, takeWhile_placed behind,
    List.append_assoc]

/-- Parentheses are completed with what is in them, and leave no line. -/
theorem completed_grouping (inner : Expr) :
    ((Expr.grouping token inner).completed depth).filter (·.node.isOperation) =
      (inner.completed depth).filter (·.node.isOperation) := by
  cases means : inner.meaning with
  | error failure => rw [completed, placed, takeWhile_placed_of_error means]
  | ok value =>
    have last : (Place.mk depth (.grouping token inner)).hasValue = true :=
      Place.hasValue_iff.mpr ⟨value, means⟩
    rw [completed, placed, takeWhile_placed means, List.takeWhile_cons_of_pos last,
      List.takeWhile_nil, List.filter_append]
    exact List.append_nil _

end

end Expr

/-! ## What plain evaluation writes -/

/-- `Leaves base places start after`: from one writer to another, what was written are the lines of
the operators among the places, where the counter stands at the base for a depth of zero. -/
def Leaves (base : Int) (places : List Place) (start after : Writer) : Prop :=
  ∃ lines,
    List.Forall₂ (TraceLine Expr.Means start.indentSize base) (places.filter (·.node.isOperation))
      lines ∧ after = start.write (String.join lines)

namespace Leaves

variable {base : Int} {places more : List Place} {start middle after : Writer}

/-- Places without an operator leave nothing. -/
theorem nothing (none : places.filter (·.node.isOperation) = []) (writer : Writer) :
    Leaves base places writer writer := by
  refine ⟨[], none ▸ .nil, ?_⟩
  simp [Writer.write]

theorem append (first : Leaves base places start middle) (second : Leaves base more middle after) :
    Leaves base (places ++ more) start after := by
  obtain ⟨lines, are, rfl⟩ := first
  obtain ⟨others, areOthers, rfl⟩ := second
  refine ⟨lines ++ others, ?_, ?_⟩
  · rw [List.filter_append]
    exact List.rel_append are areOthers
  · simp [Writer.write, String.append_assoc]

/-- What is left in a block is left around it. -/
theorem dedent (inside : Leaves base places start.indent after) :
    Leaves base places start after.dedent := by
  obtain ⟨lines, are, rfl⟩ := inside
  rw [start.indentSize_indent] at are
  exact ⟨lines, are, start.indent_write_dedent _⟩

theorem debugging (h : Leaves base places start after) : after.debugging = start.debugging := by
  obtain ⟨lines, -, rfl⟩ := h
  rfl

theorem indents (h : Leaves base places start after) : after.indents = start.indents := by
  obtain ⟨lines, -, rfl⟩ := h
  rfl

end Leaves

section
variable {base : Int} {depth : Nat} {writer : Writer}

/-- A node with a value leaves its line of trace. -/
theorem leaves_trace {node : Expr} {value : Value} (on : writer.debugging = true)
    (level : writer.indents = base + depth) (operation : node.isOperation = true)
    (short : node.NumeralsShort) (means : node.meaning = .ok value) :
    Leaves base [⟨depth, node⟩] writer (trace node value writer).2 := by
  obtain ⟨text, written⟩ := Style.tree.exists_layout (Expr.foreigns_of_meaning means) short
  have printed : node.print = .ok text := (Style.write_eq_layout Style.tree node).trans written
  refine ⟨[writer.padding ++ "[" ++ text ++ " => " ++ value.display ++ "]\n"], ?_, ?_⟩
  · have kept : [Place.mk depth node].filter (·.node.isOperation) = [⟨depth, node⟩] := by
      simp [operation]
    rw [kept, writer.padding_eq, level]
    exact .cons ⟨value, text, means, printed, rfl⟩ .nil
  · rw [trace, if_pos on, printed, Value.display?_of_short (Expr.short_of_meaning short means)]
    dsimp only
    rw [Writer.debugln_eq on]
    simp [String.append_assoc]

/-- The end of an operator node leaves its line of trace if the node has a value. -/
theorem leaves_finish {node : Expr} {applied : Except EvalError Value}
    (on : writer.debugging = true) (level : writer.indents = base + depth)
    (operation : node.isOperation = true) (short : node.NumeralsShort)
    (means : node.meaning = applied.mapError .failed) :
    Leaves base ([⟨depth, node⟩].takeWhile Place.hasValue) writer
      (finish node applied writer).2 := by
  cases applied with
  | error error =>
    have fails : (Place.mk depth node).hasValue = false := by rw [Place.hasValue, means]; rfl
    rw [List.takeWhile_cons_of_neg (by simp [fails])]
    exact .nothing rfl writer
  | ok value =>
    rw [List.takeWhile_cons_of_pos (Place.hasValue_iff.mpr ⟨value, means⟩), List.takeWhile_nil]
    exact leaves_trace on level operation short means

/-- Plain evaluation leaves the lines of the operator nodes that it completes. -/
theorem leaves_evaluatePlainly {expr : Expr} (on : writer.debugging = true)
    (level : writer.indents = base + depth) (short : expr.NumeralsShort) :
    Leaves base (expr.completed depth) writer (evaluatePlainly expr writer).2 := by
  induction expr generalizing depth writer with
  | integer | boolean | string | «foreign» =>
    refine .nothing ?_ writer
    rw [List.filter_eq_nil_iff]
    intro place mem
    obtain rfl := List.mem_singleton.mp ((List.takeWhile_sublist _).subset mem)
    simp [Expr.isOperation]
  | grouping token inner ih =>
    obtain ⟨lines, are, after⟩ := ih on level short
    exact ⟨lines, Expr.completed_grouping inner ▸ are, after⟩
  | unary token operand ih =>
    have deeper : writer.indent.indents = base + (depth + 1 : Nat) := by
      rw [Writer.indents_indent on, level]
      omega
    have below := @evaluatePlainly_fst operand writer.indent fun _ => short
    have inside := ih (writer.debugging_indent.trans on) deeper short
    cases eq : evaluatePlainly operand writer.indent with
    | mk outcome after =>
      rw [eq] at below inside
      cases outcome with
      | error failure =>
        rw [evaluatePlainly_operandFails eq, Expr.completed_operandFails below.symm]
        exact inside.dedent
      | ok value =>
        rw [evaluatePlainly_unary eq, Expr.completed_unary below.symm]
        refine inside.dedent.append (leaves_finish ?_ ?_ rfl short (Expr.meaning_unary below.symm))
        · exact inside.dedent.debugging.trans on
        · exact inside.dedent.indents.trans level
  | binary token left right first second =>
    have deeper : writer.indent.indents = base + (depth + 1 : Nat) := by
      rw [Writer.indents_indent on, level]
      omega
    have before := @evaluatePlainly_fst left writer.indent fun _ => short.1
    have inLeft := first (writer.debugging_indent.trans on) deeper short.1
    cases leftEq : evaluatePlainly left writer.indent with
    | mk leftOutcome between =>
      rw [leftEq] at before inLeft
      cases leftOutcome with
      | error failure =>
        rw [evaluatePlainly_leftFails leftEq, Expr.completed_leftFails before.symm]
        exact inLeft.dedent
      | ok leftValue =>
        have behind := @evaluatePlainly_fst right between fun _ => short.2
        have inRight := second
          (inLeft.debugging.trans (writer.debugging_indent.trans on)) (inLeft.indents.trans deeper)
          short.2
        cases rightEq : evaluatePlainly right between with
        | mk rightOutcome after =>
          rw [rightEq] at behind inRight
          have both := (inLeft.append inRight).dedent
          cases rightOutcome with
          | error failure =>
            rw [evaluatePlainly_rightFails leftEq rightEq,
              Expr.completed_rightFails before.symm behind.symm]
            exact both
          | ok rightValue =>
            rw [evaluatePlainly_binary leftEq rightEq,
              Expr.completed_binary before.symm behind.symm]
            refine both.append
              (leaves_finish ?_ ?_ rfl short (Expr.meaning_binary before.symm behind.symm))
            · exact both.debugging.trans on
            · exact both.indents.trans level

end

/-! ## What evaluation writes -/

/-- Where evaluation does not go too deep, the first node that fails in evaluation is the first one
without a value. -/
theorem Expr.takeWhile_evaluate {expr : Expr} {writer : Writer}
    (shallow : ∀ root, (evaluate expr writer).1 ≠ tooDeep root) (short : expr.NumeralsShort)
    (depth : Nat) :
    (expr.placed depth).takeWhile (fun place => (evaluate place.node writer).1.isOk) =
      expr.completed depth := by
  have agrees : ∀ place : Place, expr.Reaches place.node →
      (evaluate place.node writer).1.isOk = place.hasValue := fun place reaches => by
    rw [reaches.evaluate_fst shallow fun _ => short, Place.hasValue]
  cases means : expr.meaning with
  | ok value =>
    rw [completed_of_meaning means, List.takeWhile_eq_self_iff]
    intro place inside
    rw [agrees place (completes_of_meaning means _ (node_mem_postorder inside)).1]
    exact hasValue_of_meaning means inside
  | error failure =>
    obtain ⟨before, node, after, split, fails⟩ := exists_failsAt means
    obtain ⟨front, back, eq, rfl, rest⟩ :=
      List.map_eq_append_iff.mp ((expr.placed_node depth).trans split)
    obtain ⟨place, behind, rfl, rfl, -⟩ := List.map_eq_cons_iff.mp rest
    have all : ∀ place ∈ front, place.hasValue = true := fun place mem =>
      Place.hasValue_iff.mpr (fails.before _ (List.mem_map_of_mem mem)).2
    have stop : ¬ place.hasValue = true := fun has => by
      obtain ⟨value, ok⟩ := Place.hasValue_iff.mp has
      cases (fault?_of_meaning ok).symm.trans fails.fault
    have inFront : ∀ place ∈ front, (evaluate place.node writer).1.isOk = true := fun other mem =>
      (agrees other (fails.before _ (List.mem_map_of_mem mem)).1).trans (all other mem)
    rw [completed, eq, List.takeWhile_append_of_pos all, List.takeWhile_append_of_pos inFront,
      List.takeWhile_cons_of_neg stop, List.takeWhile_cons_of_neg]
    rwa [agrees place fails.reaches]

section
variable {expr : Expr} {writer : Writer}

/-- What is evaluated to a value leaves the line of that value. -/
theorem TraceLine.evaluated {size indents : Int} {place : Place} {line : String}
    (ok : (evaluate place.node writer).1.isOk = true)
    (h : TraceLine Expr.Means size indents place line) :
    TraceLine (fun node value => (evaluate node writer).1 = .ok value) size indents place line := by
  obtain ⟨value, text, means, printed, is⟩ := h
  refine ⟨value, text, ?_, printed, is⟩
  dsimp only
  cases evaluates : (evaluate place.node writer).1 with
  | error failure => rw [evaluates] at ok; cases ok
  | ok own => rw [← meaning_of_evaluate evaluates]; exact means

/-- Traces. Let the evaluation of a tree not go too deep, and its numerals be short. When debugging,
it writes one line for each operator node before the first node in postorder that fails, in that
order: the spaces of the indentation, a level further in for each operator node around the node, the
tree and its value. When not debugging, it writes nothing. What it comes to is the same in both
modes. -/
theorem evaluate_trace (shallow : ∀ root, (evaluate expr writer).1 ≠ tooDeep root)
    (short : expr.NumeralsShort) :
    (writer.debugging = true → ∃ lines,
      List.Forall₂
        (TraceLine (fun node value => (evaluate node writer).1 = .ok value) writer.indentSize
          writer.indents)
        (((expr.placed 0).takeWhile fun place => (evaluate place.node writer).1.isOk).filter
          (·.node.isOperation)) lines ∧
      (evaluate expr writer).2 = writer.write (String.join lines)) ∧
    (writer.debugging = false → (evaluate expr writer).2 = writer) ∧
    ∀ mode, (evaluate expr { writer with debugging := mode }).1 = (evaluate expr writer).1 := by
  have within := within_of_shallow shallow fun _ => short
  refine ⟨fun on => ?_, fun off => ?_, fun mode => ?_⟩
  · have level : writer.indents = writer.indents + (0 : Nat) := by simp
    obtain ⟨lines, are, after⟩ := leaves_evaluatePlainly on level short
    refine ⟨lines, ?_, ?_⟩
    · rw [← Expr.takeWhile_evaluate shallow short] at are
      refine ((List.forall₂_and_left _ _).mpr ⟨fun place mem => ?_, are⟩).imp
        fun _ _ both => both.2.evaluated both.1
      have evaluated := List.mem_takeWhile_imp (List.mem_filter.mp mem).1
      exact evaluated
    · rw [plainly_evaluate shallow, after]
  · rw [plainly_evaluate shallow, evaluatePlainly_of_not_debugging (by simp [off])]
  · rw [evaluate_fst_of_within within _ fun _ => short, evaluate_fst shallow fun _ => short]

end

/-- A comparison whose right operand fails. The sum lies two operators deep and the negation one;
the counter starts below zero, so only the line of the sum is indented. -/
theorem evaluate_trace_cut_short :
    ∃ (sum negation comparison : Expr) (writer : Writer),
      sum = .binary ⟨.plus, "+", 1⟩ (.integer ⟨.integerLiteral, "1", 1⟩ 1)
        (.integer ⟨.integerLiteral, "2", 1⟩ 2) ∧
      negation = .unary ⟨.minus, "-", 1⟩ (.grouping ⟨.leftParen, "(", 1⟩ sum) ∧
      comparison = .binary ⟨.smaller, "<", 1⟩ negation
        (.unary ⟨.bang, "!", 1⟩ (.integer ⟨.integerLiteral, "4", 1⟩ 4)) ∧
      writer = ⟨2, true, -1, ""⟩ ∧
      ∃ lines,
        List.Forall₂
          (TraceLine (fun node value => (evaluate node writer).1 = .ok value) 2 (-1))
          [⟨2, sum⟩, ⟨1, negation⟩] lines ∧
        (evaluate comparison writer).2 = writer.write (String.join lines) ∧
        String.join lines = "  [(+ (IntLit 1) (IntLit 2)) => 3]\n" ++
          "[(- (Group (+ (IntLit 1) (IntLit 2)))) => -3]\n" := by
  obtain ⟨sum, isSum⟩ : ∃ sum : Expr,
      sum = .binary ⟨.plus, "+", 1⟩ (.integer ⟨.integerLiteral, "1", 1⟩ 1)
        (.integer ⟨.integerLiteral, "2", 1⟩ 2) := ⟨_, rfl⟩
  obtain ⟨negation, isNegation⟩ : ∃ negation : Expr,
      negation = .unary ⟨.minus, "-", 1⟩ (.grouping ⟨.leftParen, "(", 1⟩ sum) := ⟨_, rfl⟩
  obtain ⟨comparison, isComparison⟩ : ∃ comparison : Expr,
      comparison = .binary ⟨.smaller, "<", 1⟩ negation
        (.unary ⟨.bang, "!", 1⟩ (.integer ⟨.integerLiteral, "4", 1⟩ 4)) := ⟨_, rfl⟩
  have fails : evaluate comparison ⟨2, true, -1, ""⟩ =
      (.error (.failed ⟨.notBoolean, ⟨.bang, "!", 1⟩⟩),
        ⟨2, true, -1, "  [(+ (IntLit 1) (IntLit 2)) => 3]\n" ++
          "[(- (Group (+ (IntLit 1) (IntLit 2)))) => -3]\n"⟩) := by
    subst isComparison isNegation isSum
    decide +kernel
  have reduced : ((comparison.placed 0).takeWhile fun place =>
      (evaluate place.node ⟨2, true, -1, ""⟩).1.isOk).filter (·.node.isOperation) =
      [⟨2, sum⟩, ⟨1, negation⟩] := by
    subst isComparison isNegation isSum
    decide +kernel
  have short : comparison.NumeralsShort := by
    subst isComparison isNegation isSum
    decide
  have shallow : ∀ root, (evaluate comparison ⟨2, true, -1, ""⟩).1 ≠ tooDeep root :=
    fun root deep => by
      rw [fails] at deep
      cases deep
  have traced := evaluate_trace shallow short
  obtain ⟨lines, are, after⟩ := traced.1 rfl
  rw [reduced] at are
  refine ⟨sum, negation, comparison, _, isSum, isNegation, isComparison, rfl, lines, are, after, ?_⟩
  rw [fails] at after
  have written := congrArg Writer.output after
  rw [Writer.write, String.empty_append] at written
  exact written.symm

end Abacus
