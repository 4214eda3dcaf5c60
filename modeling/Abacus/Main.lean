import Abacus.Program

/-!
# The command

Carries the arguments and the standard streams to the program and back. In a dialogue each answer
is written before the next line is read.
-/

namespace Abacus

/-- Sends what a writer has collected to a stream and empties the writer. -/
def Writer.send (writer : Writer) (stream : IO.FS.Stream) : IO Writer := do
  stream.putStr writer.output
  stream.flush
  return { writer with output := "" }

/-- Reports a failure that has no answer. -/
def abandon (reason : Unanswered) : IO UInt32 := do
  (← IO.getStderr).putStr (reason.message ++ "\n")
  return 1

/-- Answers the lines of the standard input as they come. -/
partial def talk (showTree : Bool) (writer : Writer) : IO UInt32 := do
  let output ← IO.getStdout
  let prompted ← (writer.print prompt).send output
  let line ← (← IO.getStdin).getLine
  if line.isEmpty then
    let _ ← prompted.newline.send output
    return 0
  match takeTurn showTree line.toList prompted with
  | .proceed after => talk showTree (← after.send output)
  | .stop after =>
    let _ ← after.send output
    return 0
  | .abandon reason after =>
    let _ ← after.send output
    abandon reason

/-- Leaves behind what the program does, apart from a dialogue. -/
def settleOutcome (outcome : Outcome) : IO UInt32 := do
  (← IO.getStdout).putStr outcome.output
  (← IO.getStderr).putStr outcome.errors
  match outcome.ending with
  | .exit status => return status.toUInt32
  | .abandoned reason => abandon reason

end Abacus

/-- Runs the program on the arguments of the command. -/
def main (arguments : List String) : IO UInt32 :=
  match Abacus.CommandLine.request arguments with
  | .evaluate options =>
    match options.expression with
    | none => Abacus.talk options.showTree options.writer
    | some source => Abacus.settleOutcome (Abacus.evaluateOnce source options)
  | _ => Abacus.settleOutcome (Abacus.respond arguments "")
