import Abacus.Proofs.Spine
import Abacus.Session

/-!
# Evaluations on one writer do not disturb each other

The evaluations of a session share a writer, and with it the output and the indentation. The output
is only ever added to. The indentation is moved in around the operand of a unary operator, by a
block, and along a left spine, link by link, and it is moved back on every way out. So whatever has
been evaluated before, and however that ended, an evaluation comes to what it comes to on a writer
of its own, and adds the same text.

Results:
1. `Adds.andThen`: what an action adds is what its parts add, one behind the other.
2. `adds_reduce`: reducing the links of a spine gives back the indentation of all of them.
3. `adds_evaluateWithin`: an evaluation within any allowance leaves the indentation as it was.
4. `session_isolated`: each step of a session is what it would be on a fresh writer.
-/

namespace Abacus

/-! ## What an action adds -/

namespace Writer

/-- A writer of the same settings and indentation that holds other output. -/
def holding (writer : Writer) (output : String) : Writer :=
  { writer with output := output }

/-- A writer of the same settings and indentation that nothing has been written to. -/
def fresh (writer : Writer) : Writer :=
  writer.holding ""

@[simp] theorem holding_indent (writer : Writer) (output : String) :
    (writer.holding output).indent = writer.indent.holding output := by
  obtain ⟨size, debugging, indents, written⟩ := writer
  cases debugging <;> rfl

@[simp] theorem holding_dedent (writer : Writer) (output : String) :
    (writer.holding output).dedent = writer.dedent.holding output := by
  obtain ⟨size, debugging, indents, written⟩ := writer
  cases debugging <;> rfl

theorem holding_indentBy (writer : Writer) (output : String) (levels : Nat) :
    (writer.holding output).indentBy levels = (writer.indentBy levels).holding output := by
  induction levels generalizing writer with
  | zero => rfl
  | succ levels ih =>
    rw [indentBy, holding_indent, ih]
    rfl

/-- So many levels in and back are none, whatever is written in between. -/
theorem dedentBy_holding_indentBy (writer : Writer) (output : String) (levels : Nat) :
    ((writer.indentBy levels).holding output).dedentBy levels = writer.holding output := by
  induction levels with
  | zero => rfl
  | succ levels ih => rw [dedentBy, holding_dedent, indentBy_succ, indent_dedent, ih]

theorem holding_debugln (writer : Writer) (output message : String) (on : writer.debugging = true) :
    (writer.holding output).debugln message =
      writer.holding (output ++ (writer.padding ++ message ++ "\n")) := by
  have mode : (writer.holding output).debugging = true := on
  rw [debugln_eq mode]
  rfl

end Writer

/-- From the settings and the indentation of one writer to those of another, an action has one
result and adds one text, whatever has been written before. -/
def Adds {α : Type} (act : Writer → α × Writer) (start stop : Writer) : Prop :=
  ∃ result text, ∀ before,
    act (start.holding before) = (result, stop.holding (before ++ text))

/-- What an action does on a writer is what it does on a fresh one. -/
theorem Adds.eq_fresh {α : Type} {act : Writer → α × Writer} {writer : Writer}
    (h : Adds act writer writer) :
    act writer = ((act writer.fresh).1, writer.write (act writer.fresh).2.output) := by
  obtain ⟨result, text, all⟩ := h
  have own : act writer = (result, writer.holding (writer.output ++ text)) := all writer.output
  have alone : act writer.fresh = (result, writer.holding ("" ++ text)) := all ""
  rw [own, alone, String.empty_append]
  rfl

/-- An action that leaves the writer alone adds nothing. -/
theorem adds_nothing {α : Type} (result : α) (writer : Writer) :
    Adds (fun writer => (result, writer)) writer writer :=
  ⟨result, "", fun before => by rw [String.append_empty]⟩

/-- What an action goes on with adds behind what it has added. -/
theorem Adds.andThen {α β : Type} {act : Writer → α × Writer} {whole : Writer → β × Writer}
    {next : α → Writer → β × Writer} {start middle stop : Writer} (first : Adds act start middle)
    (goes : ∀ writer result after, act writer = (result, after) →
      whole writer = next result after)
    (later : ∀ result, Adds (next result) middle stop) : Adds whole start stop := by
  obtain ⟨result, text, acted⟩ := first
  obtain ⟨last, more, added⟩ := later result
  refine ⟨last, text ++ more, fun before => ?_⟩
  rw [goes _ _ _ (acted before), added, String.append_assoc]

/-- An action that starts by moving several levels in. -/
theorem Adds.inwards {α : Type} {act : Writer → α × Writer} {start stop : Writer} {levels : Nat}
    (inside : Adds act (start.indentBy levels) stop) :
    Adds (fun writer => act (writer.indentBy levels)) start stop := by
  obtain ⟨result, text, all⟩ := inside
  refine ⟨result, text, fun before => ?_⟩
  dsimp only
  rw [Writer.holding_indentBy, all]

/-- An action that starts by moving one level out. -/
theorem Adds.outwards {α : Type} {act : Writer → α × Writer} {start stop : Writer}
    (outside : Adds act start stop) : Adds (fun writer => act writer.dedent) start.indent stop := by
  obtain ⟨result, text, all⟩ := outside
  refine ⟨result, text, fun before => ?_⟩
  dsimp only
  rw [Writer.holding_dedent, Writer.indent_dedent, all]

/-- To move several levels out adds nothing. -/
theorem adds_dedentBy {α : Type} (result : α) (writer : Writer) (levels : Nat) :
    Adds (fun writer => (result, writer.dedentBy levels)) (writer.indentBy levels) writer := by
  refine ⟨result, "", fun before => ?_⟩
  dsimp only
  rw [Writer.dedentBy_holding_indentBy, String.append_empty]

/-- A block adds what is inside of it. -/
theorem Adds.indented {α : Type} {block : Writer → α × Writer} {writer : Writer}
    (inside : Adds block writer.indent writer.indent) :
    Adds (fun writer => writer.indented block) writer writer := by
  have entered : Adds (fun writer => block (writer.indentBy 1)) writer writer.indent :=
    inside.inwards
  exact entered.andThen (fun _ _ _ ran => Writer.indented_eq ran) fun result =>
    (adds_nothing result writer).outwards

/-! ## Evaluation -/

/-- A line of trace is added when debugging, and nothing otherwise. -/
theorem adds_trace (node : Expr) (value : Value) (writer : Writer) :
    Adds (trace node value) writer writer := by
  by_cases on : writer.debugging = true
  · have mode : ∀ before, (writer.holding before).debugging = true := fun _ => on
    cases printed : node.print with
    | error failure =>
      refine ⟨.error failure.failure, "", fun before => ?_⟩
      rw [trace, if_pos (mode before), printed, String.append_empty]
    | ok text =>
      cases shown : value.display? with
      | none =>
        refine ⟨.error .overlong, "", fun before => ?_⟩
        rw [trace, if_pos (mode before), printed, shown, String.append_empty]
      | some display =>
        have line : ∀ before, trace node value (writer.holding before) =
            (.ok value, writer.holding (before ++
              (writer.padding ++ ("[" ++ text ++ " => " ++ display ++ "]") ++ "\n"))) := by
          intro before
          rw [trace, if_pos (mode before), printed, shown]
          dsimp only
          rw [writer.holding_debugln before _ on]
        exact ⟨.ok value, _, line⟩
  · have mode : ∀ before, ¬(writer.holding before).debugging = true := fun _ => on
    refine ⟨.ok value, "", fun before => ?_⟩
    rw [trace, if_neg (mode before), String.append_empty]

/-- Reducing the links of a spine adds what its operands and links add, and gives back the
indentation of all links, wherever it fails. -/
theorem adds_reduce {operand : Evaluator} (adds : ∀ expr writer, Adds (operand expr) writer writer)
    (links : List Link) (value : Value) (writer : Writer) :
    Adds (reduce operand links value) (writer.indentBy links.length) writer := by
  -- At each link, as many levels are still to be given back as there are links left.
  induction links generalizing value with
  | nil => exact adds_nothing (Except.ok value) writer
  | cons link links ih =>
    refine (adds link.right _).andThen (fun _ _ _ ran => by rw [reduce, ran]) fun outcome => ?_
    cases outcome with
    | error failure => exact adds_dedentBy _ writer (links.length + 1)
    | ok right =>
      dsimp only
      rw [List.length_cons, Writer.indentBy_succ]
      cases link.token.applyBinary value right with
      | error error => exact (adds_dedentBy _ writer links.length).outwards
      | ok result =>
        dsimp only
        have traced := (adds_trace link.node result (writer.indentBy links.length)).outwards
        refine traced.andThen (fun _ _ _ ran => by rw [ran]) fun kept => ?_
        cases kept with
        | error failure => exact adds_dedentBy _ writer links.length
        | ok kept => exact ih kept

/-- An evaluation within any allowance adds to the output and leaves the indentation as it was. -/
theorem adds_evaluateWithin (root : Token) (allowance : Nat) (expr : Expr) (writer : Writer) :
    Adds (evaluateWithin root allowance expr) writer writer := by
  -- A binary node takes two calls, so its operands come two below it.
  induction allowance using Nat.strongRecOn generalizing expr writer with
  | ind allowance ih =>
  cases allowance with
  | zero => exact adds_nothing _ writer
  | succ allowance =>
    have below := fun expr => ih allowance (Nat.lt_succ_self _) expr
    cases expr with
    | integer token value => exact adds_nothing _ writer
    | boolean token value => exact adds_nothing _ writer
    | string token value => exact adds_nothing _ writer
    | «foreign» typeName => exact adds_nothing _ writer
    | grouping token inner => exact below inner writer
    | unary token operand =>
      have inside := (below operand writer.indent).indented
      refine inside.andThen (fun _ _ _ ran => by rw [evaluateWithin, ran]) fun outcome => ?_
      cases outcome with
      | error failure => exact adds_nothing _ writer
      | ok value =>
        dsimp only
        cases token.applyUnary value with
        | error error => exact adds_nothing _ writer
        | ok result => exact adds_trace (.unary token operand) result writer
    | binary token left right =>
      cases allowance with
      | zero => exact adds_nothing _ writer
      | succ allowance =>
        have operands := ih allowance (by omega)
        cases eqSpine : spine (.binary token left right) [] with
        | mk first links =>
          have innermost := (operands first (writer.indentBy links.length)).inwards
          refine innermost.andThen
            (fun _ _ _ ran => by rw [evaluateWithin, eqSpine]; dsimp only; rw [ran])
            fun outcome => ?_
          cases outcome with
          | error failure => exact adds_dedentBy _ writer links.length
          | ok value => exact adds_reduce operands links value writer

theorem adds_evaluate (expr : Expr) (writer : Writer) : Adds (evaluate expr) writer writer := by
  unfold evaluate
  cases expr.token with
  | error failure => exact adds_nothing _ writer
  | ok root => exact adds_evaluateWithin root evaluationDepth expr writer

/-! ## Sessions -/

/-- What one step of a session evaluates: a source text, or a tree made by hand. -/
inductive Query where
  | source (text : String)
  | tree (expr : Expr)
  deriving DecidableEq, Repr

/-- Evaluates what a step asks for, writing the trace. -/
def Query.run : Query → Writer → Except RunFailure Value × Writer
  | .source text, writer => Abacus.run text writer
  | .tree expr, writer =>
    let (outcome, after) := evaluate expr writer
    (outcome.mapError .evaluation, after)

/-- The steps of a session one after the other, each on the writer that the one before it left: what
came of them, and the writer in the end. -/
def session : List Query → Writer → List (Except RunFailure Value) × Writer
  | [], writer => ([], writer)
  | query :: later, writer =>
    let (outcome, after) := query.run writer
    let (outcomes, last) := session later after
    (outcome :: outcomes, last)

/-- A result made into another one adds what it added. -/
theorem Adds.map {α β : Type} {act : Writer → α × Writer} {start stop : Writer}
    (h : Adds act start stop) (change : α → β) :
    Adds (fun writer => (change (act writer).1, (act writer).2)) start stop := by
  refine h.andThen (fun _ _ _ ran => ?_) fun result => adds_nothing (change result) stop
  rw [ran]

/-- A step of a session adds to the output and leaves the indentation as it was. -/
theorem Query.adds_run (query : Query) (writer : Writer) : Adds query.run writer writer := by
  cases query with
  | tree expr => exact (adds_evaluate expr writer).map _
  | source text =>
    show Adds (Abacus.run text) writer writer
    unfold Abacus.run
    cases parse text with
    | error error => exact adds_nothing _ writer
    | ok expr => exact (adds_evaluate expr writer).map _

/-- A session comes to what its steps come to on fresh writers, and adds their texts in turn. -/
theorem session_eq (queries : List Query) (writer : Writer) :
    (session queries writer).1 = queries.map (fun query : Query => (query.run writer.fresh).1) ∧
    (session queries writer).2 = writer.write
      (String.join (queries.map fun query : Query => (query.run writer.fresh).2.output)) := by
  induction queries generalizing writer with
  | nil => exact ⟨rfl, by simp [session, Writer.write]⟩
  | cons query later ih =>
    have step := (query.adds_run writer).eq_fresh
    obtain ⟨outcomes, last⟩ := ih (query.run writer).2
    -- The next step starts from a writer that differs from the first in its output only.
    have fresh : (query.run writer).2.fresh = writer.fresh := by
      rw [step]
      rfl
    rw [fresh] at outcomes last
    constructor
    · rw [session, List.map_cons, ← outcomes, step]
    · rw [session, List.map_cons, String.join_cons]
      dsimp only
      rw [last, step]
      simp [Writer.write, String.append_assoc]

/-- Each step of a session comes to what it comes to on a fresh writer of the same settings and
indentation, and adds the same text, whatever the steps before it were and however they ended. After
each step the indentation is what it was before. The nesting limit makes no difference, wherever it
lies, and neither does a numeral that is too long to be traced. -/
theorem session_isolated (queries : List Query) (writer : Writer) :
    (session queries writer).1 = queries.map (fun query : Query => (query.run writer.fresh).1) ∧
    (session queries writer).2 = writer.write
      (String.join (queries.map fun query : Query => (query.run writer.fresh).2.output)) ∧
    (∀ query : Query, query.run (session queries writer).2 = ((query.run writer.fresh).1,
      (session queries writer).2.write (query.run writer.fresh).2.output)) ∧
    (∀ query : Query, (query.run (session queries writer).2).2.indents =
      (session queries writer).2.indents) ∧
    ∀ root allowance expr,
      evaluateWithin root allowance expr (session queries writer).2 =
        ((evaluateWithin root allowance expr writer.fresh).1, (session queries writer).2.write
          (evaluateWithin root allowance expr writer.fresh).2.output) := by
  obtain ⟨outcomes, last⟩ := session_eq queries writer
  have fresh : (session queries writer).2.fresh = writer.fresh := by
    rw [last]
    rfl
  have next : ∀ query : Query, query.run (session queries writer).2 =
      ((query.run writer.fresh).1,
        (session queries writer).2.write (query.run writer.fresh).2.output) := by
    intro query
    rw [← fresh]
    exact (query.adds_run _).eq_fresh
  refine ⟨outcomes, last, next, ?_, ?_⟩
  · intro query
    rw [next]
    rfl
  · intro root allowance expr
    rw [← fresh]
    exact (adds_evaluateWithin root allowance expr _).eq_fresh

end Abacus
