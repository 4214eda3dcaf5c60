import Abacus.CommandLine.Request
import Abacus.Dialogue

/-!
# The program

The arguments of the program ask for one expression to be evaluated, for a dialogue, or for help.
What is written and how the program ends follow from the arguments and the input alone. What was
written before a failure that is not answered stays written.
-/

namespace Abacus

open CommandLine

/-- How the program ends. -/
inductive Ending where
  | exit (status : Nat)
  /-- A failure that is not answered breaks the program off. -/
  | abandoned (reason : Unanswered)
  deriving DecidableEq, Repr

/-- What the program leaves behind. -/
structure Outcome where
  ending : Ending
  output : String
  errors : String := ""
  deriving DecidableEq, Repr

namespace CommandLine.Options

/-- The writer that the options ask for. -/
def writer (options : Options) : Writer :=
  { debugging := options.debug }

end CommandLine.Options

/-- Evaluates one expression; the value, if there is one, is the last thing written. -/
def evaluateOnce (source : String) (options : Options) : Outcome :=
  match answerCommand source options.showTree options.writer with
  | (.error reason, after) => ⟨.abandoned reason, after.output, ""⟩
  | (.ok ⟨none, errors⟩, after) => ⟨.exit 1, after.output, errors⟩
  | (.ok ⟨some value, errors⟩, after) =>
    match value.display? with
    | none => ⟨.abandoned .overlong, after.output, errors⟩
    | some text => ⟨.exit 0, (after.println text).output, errors⟩

/-- What a dialogue leaves behind. -/
def Transcript.outcome (transcript : Transcript) : Outcome :=
  match transcript.broken with
  | none => ⟨.exit 0, transcript.writer.output, ""⟩
  | some reason => ⟨.abandoned reason, transcript.writer.output, ""⟩

/-- What the program leaves behind for the given arguments and input. -/
def respond (arguments : List String) (input : String) : Outcome :=
  match request arguments with
  | .refuse misuse => ⟨.exit 2, "", refusalText misuse⟩
  | .help => ⟨.exit 0, helpText, ""⟩
  | .evaluate options =>
    match options.expression with
    | some source => evaluateOnce source options
    | none => (converse options.showTree input.toList options.writer).outcome

end Abacus
