import Abacus.Evaluation
import Abacus.Expr.Phrase

/-!
# Answers to source texts

A source text is read and evaluated, and what came of it is told: as a line of text, or as a value
beside a text of errors. Errors of reading and of evaluating are part of the answer. What has no
answer is a numeral that is too long, read or to be written, and a tree with something that is no
expression.

Result: `answerLine_of_rejected` and `answerCommand_of_rejected`: a rejected source writes nothing.
-/

namespace Abacus

/-! ## Running -/

/-- Why a source text has no value. -/
inductive RunFailure where
  | parse (error : ParseError)
  | evaluation (failure : EvalFailure)
  deriving DecidableEq, Repr

/-- Reads and evaluates a source text, writing the trace. -/
def run (source : String) (writer : Writer) : Except RunFailure Value × Writer :=
  match parse source with
  | .error error => (.error (.parse error), writer)
  | .ok expr =>
    let (outcome, after) := evaluate expr writer
    (outcome.mapError .evaluation, after)

/-! ## Answers -/

/-- A failure that is not answered. -/
inductive Unanswered where
  | numeralTooLong (failure : Numeral.TooLong)
  | foreign (failure : Foreign)
  | overlong
  deriving DecidableEq, Repr

/-- A tree that cannot be written is not answered. -/
def Unwritten.unanswered : Unwritten → Unanswered
  | .foreign failure => .foreign failure
  | .overlong => .overlong

/-- What is said of a failure that is not answered. -/
def Unanswered.message : Unanswered → String
  | .numeralTooLong failure => failure.message
  | .foreign failure => failure.message
  | .overlong => Numeral.overlong

/-- The text of a rejected source. -/
def SyntaxError.answer (error : SyntaxError) : String :=
  "Syntax error: " ++ error.message

/-- The text of a failed evaluation. -/
def EvalError.answer (error : EvalError) : String :=
  "Runtime error: " ++ error.message

/-- The answer to a line: the tree if it is to be shown, and below it the value or what failed. -/
def answerLine (source : String) (showTree : Bool) (writer : Writer) :
    Except Unanswered String × Writer :=
  match parse source with
  | .error (.rejected error) => (.ok error.answer, writer)
  | .error (.numeralTooLong failure) => (.error (.numeralTooLong failure), writer)
  | .ok expr =>
    match if showTree then expr.print.map (· ++ "\n") else .ok "" with
    | .error failure => (.error failure.unanswered, writer)
    | .ok shown =>
      match evaluate expr writer with
      | (.ok value, after) =>
        match value.display? with
        | none => (.error .overlong, after)
        | some text => (.ok (shown ++ text), after)
      | (.error (.failed error), after) => (.ok (shown ++ error.answer), after)
      | (.error (.foreign failure), after) => (.error (.foreign failure), after)
      | (.error .overlong, after) => (.error .overlong, after)

/-- The answer to a command: its value if it has one, and the text of its errors. -/
structure CommandAnswer where
  value : Option Value
  errors : String
  deriving DecidableEq, Repr

/-- The answer to a command. The tree, if it is to be shown, is written before the evaluation
starts. -/
def answerCommand (source : String) (showTree : Bool) (writer : Writer) :
    Except Unanswered CommandAnswer × Writer :=
  match parse source with
  | .error (.rejected error) => (.ok ⟨none, error.answer ++ "\n"⟩, writer)
  | .error (.numeralTooLong failure) => (.error (.numeralTooLong failure), writer)
  | .ok expr =>
    match if showTree then expr.print.map writer.println else .ok writer with
    | .error failure => (.error failure.unanswered, writer)
    | .ok shown =>
      match evaluate expr shown with
      | (.ok value, after) => (.ok ⟨some value, ""⟩, after)
      | (.error (.failed error), after) => (.ok ⟨none, error.answer ++ "\n"⟩, after)
      | (.error (.foreign failure), after) => (.error (.foreign failure), after)
      | (.error .overlong, after) => (.error .overlong, after)

/-- A rejected source is answered on a line without a trace. -/
theorem answerLine_of_rejected {source : String} {error : SyntaxError}
    (h : parse source = .error (.rejected error)) (showTree : Bool) (writer : Writer) :
    answerLine source showTree writer = (.ok error.answer, writer) := by
  simp [answerLine, h]

/-- A rejected source is answered to a command without a tree or a trace. -/
theorem answerCommand_of_rejected {source : String} {error : SyntaxError}
    (h : parse source = .error (.rejected error)) (showTree : Bool) (writer : Writer) :
    answerCommand source showTree writer = (.ok ⟨none, error.answer ++ "\n"⟩, writer) := by
  simp [answerCommand, h]

end Abacus
