/-!
# Indented output

A writer collects output. User output is always written; trace output is written only when the
writer is debugging, and only then does it keep an indentation, which goes in front of both.

Results:
1. `Writer.indent_dedent`: an indentation and its undoing leave the writer as it was, and
   `Writer.indent_write_dedent`: so they do with what is written in between.
2. `Writer.padding_eq`: how many spaces there are in front of a line.
3. `Writer.debugln_eq`: a line of trace is its message behind the spaces.
-/

namespace Abacus

/-- A place to write to. The indentation counts levels; it may be negative, and so may the number
of spaces a level stands for. -/
structure Writer where
  indentSize : Int := 3
  debugging : Bool := false
  indents : Int := 0
  output : String := ""
  deriving DecidableEq, Repr

namespace Writer

/-! ## Indentation -/

/-- Moves trace output one level in. -/
def indent (writer : Writer) : Writer :=
  if writer.debugging then { writer with indents := writer.indents + 1 } else writer

/-- Moves trace output one level out. -/
def dedent (writer : Writer) : Writer :=
  if writer.debugging then { writer with indents := writer.indents - 1 } else writer

/-- Moves trace output several levels in. -/
def indentBy (writer : Writer) : Nat → Writer
  | 0 => writer
  | levels + 1 => writer.indent.indentBy levels

/-- Moves trace output several levels out. -/
def dedentBy (writer : Writer) : Nat → Writer
  | 0 => writer
  | levels + 1 => writer.dedent.dedentBy levels

/-- Runs what is inside a block one level further in, however it ends. -/
def indented {α : Type} (writer : Writer) (block : Writer → α × Writer) : α × Writer :=
  let (result, after) := block writer.indent
  (result, after.dedent)

/-- The spaces in front of a line; a negative size or level counts as zero. -/
def padding (writer : Writer) : String :=
  String.ofList (List.replicate (writer.indentSize.toNat * writer.indents.toNat) ' ')

/-! ## Output -/

/-- Adds text to the output as it is. -/
def write (writer : Writer) (text : String) : Writer :=
  { writer with output := writer.output ++ text }

/-- Adds the spaces in front of a line, when debugging. -/
def pad (writer : Writer) : Writer :=
  if writer.debugging then writer.write writer.padding else writer

/-- User output. -/
def print (writer : Writer) (message : String) : Writer :=
  writer.pad.write message

/-- User output and the end of its line. -/
def println (writer : Writer) (message : String) : Writer :=
  writer.print (message ++ "\n")

/-- Trace output. -/
def debug (writer : Writer) (message : String) : Writer :=
  if writer.debugging then writer.pad.write message else writer

/-- Trace output and the end of its line. -/
def debugln (writer : Writer) (message : String) : Writer :=
  if writer.debugging then (writer.debug message).write "\n" else writer

/-- The end of a line, never indented. -/
def newline (writer : Writer) : Writer :=
  writer.write "\n"

/-! ## Laws of indentation -/

/-- An indentation and its undoing leave the writer as it was. -/
@[simp] theorem indent_dedent (writer : Writer) : writer.indent.dedent = writer := by
  obtain ⟨size, debugging, indents, output⟩ := writer
  cases debugging <;> simp [indent, dedent]

theorem indented_eq {α : Type} {writer after : Writer} {block : Writer → α × Writer} {result : α}
    (h : block writer.indent = (result, after)) :
    writer.indented block = (result, after.dedent) := by
  unfold indented
  rw [h]

theorem indentBy_succ (writer : Writer) (levels : Nat) :
    writer.indentBy (levels + 1) = (writer.indentBy levels).indent := by
  induction levels generalizing writer with
  | zero => rfl
  | succ levels ih => exact ih writer.indent

theorem debugging_indent (writer : Writer) : writer.indent.debugging = writer.debugging := by
  unfold indent
  split <;> rfl

theorem indentSize_indent (writer : Writer) : writer.indent.indentSize = writer.indentSize := by
  unfold indent
  split <;> rfl

theorem indents_indent {writer : Writer} (on : writer.debugging = true) :
    writer.indent.indents = writer.indents + 1 := by
  rw [indent, if_pos on]

/-- The spaces in front of a line, counted in integers. -/
theorem padding_eq (writer : Writer) :
    writer.padding = String.ofList
      (List.replicate (max writer.indentSize 0 * max writer.indents 0).toNat ' ') := by
  rw [padding, ← Int.toNat_eq_max, ← Int.toNat_eq_max, ← Int.natCast_mul, Int.toNat_natCast]

/-! ## Laws of output -/

theorem write_write (writer : Writer) (text more : String) :
    (writer.write text).write more = writer.write (text ++ more) := by
  simp [write, String.append_assoc]

theorem write_empty (writer : Writer) : writer.write "" = writer := by
  simp [write]

/-- What is written one level further in does not move the counter. -/
theorem indent_write_dedent (writer : Writer) (text : String) :
    (writer.indent.write text).dedent = writer.write text := by
  obtain ⟨size, debugging, indents, output⟩ := writer
  cases debugging <;> simp [indent, dedent, write]

/-- Without an indentation, user output is written as it is. -/
theorem print_flush {writer : Writer} (flush : writer.indents = 0) (message : String) :
    writer.print message = writer.write message := by
  obtain ⟨size, debugging, indents, output⟩ := writer
  obtain rfl : indents = 0 := flush
  cases debugging <;> simp [print, pad, padding, write]

theorem println_flush {writer : Writer} (flush : writer.indents = 0) (message : String) :
    writer.println message = writer.write (message ++ "\n") :=
  print_flush flush _

/-- When debugging, a line of trace is its message behind the spaces. -/
theorem debugln_eq {writer : Writer} (on : writer.debugging = true) (message : String) :
    writer.debugln message = writer.write (writer.padding ++ message ++ "\n") := by
  obtain ⟨size, debugging, indents, output⟩ := writer
  obtain rfl : debugging = true := on
  simp [debugln, debug, pad, write, padding, String.append_assoc]

end Writer

end Abacus
