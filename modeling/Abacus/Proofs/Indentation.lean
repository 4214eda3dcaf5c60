import Abacus.Writer

/-!
# Indentation is given back

Whoever uses a writer calls it, opens blocks inside of blocks, and may fail anywhere: an error
leaves the blocks around it, each of which is closed on the way, up to the place where it is caught.
What happens to the writer is a list of acts. When not debugging, they only add user output. When
debugging, the counter of the writer tells at any time how many more levels they have moved in than
out, and a message is written behind as many spaces as that asks for.

Results:
1. `Act.on_of_quiet` and `Act.on_of_debugging`: what one act does in either mode.
2. `replay_of_quiet` and `replay_of_debugging`: what acts do one after the other.
3. `Script.run_eq`: to run a script is to replay its acts.
4. `Script.count_opened`: all blocks that are opened are closed, wherever a script fails.
5. `writer_discipline`: all of this for any script, at any time.
-/

namespace Abacus

namespace Writer

/-! ## Acts -/

/-- What a writer can be called for. -/
inductive Call where
  | print (message : String)
  | println (message : String)
  | debug (message : String)
  | debugln (message : String)
  | newline
  | indent
  | dedent
  | flush
  deriving DecidableEq, Repr

/-- What a call does to a writer. What has been written is there at once, so that there is nothing
to flush. -/
def Call.on : Call → Writer → Writer
  | .print message, writer => writer.print message
  | .println message, writer => writer.println message
  | .debug message, writer => writer.debug message
  | .debugln message, writer => writer.debugln message
  | .newline, writer => writer.newline
  | .indent, writer => writer.indent
  | .dedent, writer => writer.dedent
  | .flush, writer => writer

/-- What happens to a writer: it is called, or a block of its output is opened or closed. -/
inductive Act where
  | called (call : Call)
  | opened
  | closed
  deriving DecidableEq, Repr

/-- What an act does to a writer. A block is one level further in. -/
def Act.on : Act → Writer → Writer
  | .called call, writer => call.on writer
  | .opened, writer => writer.indent
  | .closed, writer => writer.dedent

/-- What acts do to a writer, one after the other. -/
def replay (writer : Writer) (acts : List Act) : Writer :=
  acts.foldl (fun writer act => act.on writer) writer

/-- How many more levels acts move in than out. -/
def level (acts : List Act) : Int :=
  acts.count (.called .indent) + acts.count .opened -
    (acts.count (.called .dedent) + acts.count .closed)

/-- What an act adds to the output of a writer that is not debugging. -/
def Act.shown : Act → String
  | .called (.print message) => message
  | .called (.println message) => message ++ "\n"
  | .called .newline => "\n"
  | _ => ""

/-- What an act adds to the output of a writer that is debugging, with some spaces in front of its
message. -/
def Act.traced (spaces : String) : Act → String
  | .called (.print message) | .called (.debug message) => spaces ++ message
  | .called (.println message) | .called (.debugln message) => spaces ++ message ++ "\n"
  | .called .newline => "\n"
  | _ => ""

/-- The spaces of a level. -/
def spaces (size level : Int) : String :=
  String.ofList (List.replicate (max size 0 * max level 0).toNat ' ')

theorem level_append (first second : List Act) :
    level (first ++ second) = level first + level second := by
  simp only [level, List.count_append]
  omega

section
variable {writer : Writer}

/-- When not debugging, an act adds its user output, and nothing else changes. -/
theorem Act.on_of_quiet (off : writer.debugging = false) (act : Act) :
    act.on writer = writer.write act.shown := by
  obtain ⟨size, debugging, indents, output⟩ := writer
  obtain rfl : debugging = false := off
  cases act with
  | called call =>
    cases call <;>
      simp [on, Call.on, shown, Writer.print, Writer.println, Writer.debug, Writer.debugln,
        Writer.newline, Writer.indent, Writer.dedent, pad, write]
  | opened => simp [on, shown, Writer.indent, write]
  | closed => simp [on, shown, Writer.dedent, write]

/-- When debugging, an act adds its message behind the spaces of the counter, and moves the counter
by its level. -/
theorem Act.on_of_debugging (debugs : writer.debugging = true) (act : Act) :
    act.on writer =
      { writer with
        indents := writer.indents + level [act]
        output := writer.output ++ act.traced (spaces writer.indentSize writer.indents) } := by
  have padding : writer.padding = spaces writer.indentSize writer.indents := writer.padding_eq
  rw [← padding]
  obtain ⟨size, debugging, indents, output⟩ := writer
  obtain rfl : debugging = true := debugs
  cases act with
  | called call =>
    cases call <;>
      simp [on, Call.on, traced, level, Writer.print, Writer.println, Writer.debug,
        Writer.debugln, Writer.newline, Writer.indent, Writer.dedent, pad, write,
        String.append_assoc, Writer.padding, Int.sub_eq_add_neg]
  | opened => simp [on, traced, level, Writer.indent]
  | closed => simp [on, traced, level, Writer.dedent, Int.sub_eq_add_neg]

/-- When not debugging, acts add their user output, one behind the other. -/
theorem replay_of_quiet (off : writer.debugging = false) (acts : List Act) :
    writer.replay acts = writer.write (String.join (acts.map Act.shown)) := by
  induction acts generalizing writer with
  | nil => exact writer.write_empty.symm
  | cons act later ih =>
    have first := act.on_of_quiet off
    have mode : (act.on writer).debugging = false := by rw [first]; exact off
    rw [List.map_cons, String.join_cons, ← write_write, ← first]
    exact ih mode

/-- When debugging, acts move the counter by their level, and leave the settings alone. -/
theorem replay_of_debugging (debugs : writer.debugging = true) (acts : List Act) :
    ∃ output, writer.replay acts =
      { writer with indents := writer.indents + level acts, output := output } := by
  induction acts generalizing writer with
  | nil => exact ⟨writer.output, by simp [replay, level]⟩
  | cons act later ih =>
    have first := act.on_of_debugging debugs
    have mode : (act.on writer).debugging = true := by rw [first]; exact debugs
    obtain ⟨output, reached⟩ := ih mode
    have together : level (act :: later) = level [act] + level later := level_append [act] later
    refine ⟨output, ?_⟩
    rw [together, ← Int.add_assoc]
    show (act.on writer).replay later = _
    rw [reached, first]

theorem replay_append (writer : Writer) (first second : List Act) :
    writer.replay (first ++ second) = (writer.replay first).replay second :=
  List.foldl_append

end

/-! ## Scripts -/

/-- How a script comes to its end. -/
inductive Exit where
  | finished
  | failed
  deriving DecidableEq, Repr

/-- What is done with a writer. Blocks are properly nested, as each holds a script. -/
inductive Script where
  | idle
  | perform (call : Call)
  /-- An error is raised, and goes out of all blocks up to where it is caught. -/
  | fail
  | andThen (first later : Script)
  | block (inside : Script)
  /-- An error from inside is caught, and handled by another script. -/
  | attempt (inside handler : Script)
  deriving DecidableEq, Repr

namespace Script

/-- Runs a script on a writer. -/
def run : Script → Writer → Exit × Writer
  | idle, writer => (.finished, writer)
  | perform call, writer => (.finished, call.on writer)
  | fail, writer => (.failed, writer)
  | andThen first later, writer =>
    match first.run writer with
    | (.finished, after) => later.run after
    | (.failed, after) => (.failed, after)
  | block inside, writer => writer.indented inside.run
  | attempt inside handler, writer =>
    match inside.run writer with
    | (.finished, after) => (.finished, after)
    | (.failed, after) => handler.run after

/-- How a script ends, which depends on no writer. -/
def exit : Script → Exit
  | idle | perform _ => .finished
  | fail => .failed
  | andThen first later =>
    match first.exit with
    | .finished => later.exit
    | .failed => .failed
  | block inside => inside.exit
  | attempt inside handler =>
    match inside.exit with
    | .finished => .finished
    | .failed => handler.exit

/-- What a script does to any writer. A block is closed behind whatever was done inside. -/
def acts : Script → List Act
  | idle | fail => []
  | perform call => [.called call]
  | andThen first later =>
    match first.exit with
    | .finished => first.acts ++ later.acts
    | .failed => first.acts
  | block inside => .opened :: (inside.acts ++ [.closed])
  | attempt inside handler =>
    match inside.exit with
    | .finished => inside.acts
    | .failed => inside.acts ++ handler.acts

/-- To run a script is to replay its acts. -/
theorem run_eq (script : Script) (writer : Writer) :
    script.run writer = (script.exit, writer.replay script.acts) := by
  induction script generalizing writer with
  | idle | perform call | fail => rfl
  | andThen first later ihFirst ihLater =>
    rw [run, ihFirst, exit, acts]
    cases first.exit with
    | failed => rfl
    | finished => simp only [ihLater, replay_append]
  | block inside ih =>
    have around : writer.replay (block inside).acts = (writer.indent.replay inside.acts).dedent :=
      replay_append writer.indent inside.acts [.closed]
    rw [run, indented_eq (ih writer.indent), around, exit]
  | attempt inside handler ihInside ihHandler =>
    rw [run, ihInside, exit, acts]
    cases inside.exit with
    | finished => rfl
    | failed => simp only [ihHandler, replay_append]

/-- A script closes as many blocks as it opens, wherever it fails. -/
theorem count_opened (script : Script) :
    script.acts.count .opened = script.acts.count .closed := by
  induction script with
  | idle | fail => rfl
  | perform call => simp [acts]
  | andThen first later ihFirst ihLater =>
    rw [acts]
    cases first.exit with
    | failed => exact ihFirst
    | finished => simp only [List.count_append, ihFirst, ihLater]
  | block inside ih => simp [acts, ih]
  | attempt inside handler ihInside ihHandler =>
    rw [acts]
    cases inside.exit with
    | finished => exact ihInside
    | failed => simp only [List.count_append, ihInside, ihHandler]

end Script

/-- The level of a script is that of the indentations that it asks for by itself. -/
theorem level_acts (script : Script) :
    level script.acts =
      script.acts.count (.called .indent) - script.acts.count (.called .dedent) := by
  rw [level, script.count_opened]
  omega

/-- A block in which as many levels are moved in as out ends at the counter that it was opened at,
also when it fails. -/
theorem Script.block_indents {script : Script}
    (balanced : script.acts.count (.called .indent) = script.acts.count (.called .dedent))
    (writer : Writer) : ((block script).run writer).2.indents = writer.indents := by
  rw [run_eq]
  cases mode : writer.debugging with
  | false =>
    rw [replay_of_quiet mode]
    rfl
  | true =>
    have flat : level (block script).acts = 0 := by
      rw [level_acts]
      simp [acts, balanced]
    obtain ⟨output, reached⟩ := replay_of_debugging mode (block script).acts
    rw [reached, flat]
    exact Int.add_zero _

/-- The discipline of a writer that nothing has happened to, with levels of any size. What a script
does to it are its acts, one after the other, however the script ends. After any of them, when not
debugging, the counter is zero and the output is the user output so far. When debugging, the counter
is the number of levels moved in less that of those moved out, and the next act, if it writes a
message, writes it behind the spaces of that many levels. Closing a block brings any writer back to
the counter that the block was opened at, if the indentations asked for inside are balanced, and an
error goes on out of it. -/
theorem writer_discipline (size : Int) (script : Script) :
    (∀ writer, script.run writer = (script.exit, writer.replay script.acts)) ∧
    (∀ before after, script.acts = before ++ after →
      let quiet := replay { indentSize := size, debugging := false } before
      let loud := replay { indentSize := size, debugging := true } before
      quiet.indents = 0 ∧ quiet.output = String.join (before.map Act.shown) ∧
      loud.indents = level before ∧
      ∀ act later, after = act :: later →
        (act.on loud).output = loud.output ++ act.traced (spaces size (level before))) ∧
    ∀ writer, script.acts.count (.called .indent) = script.acts.count (.called .dedent) →
      ((Script.block script).run writer).1 = script.exit ∧
      ((Script.block script).run writer).2.indents = writer.indents := by
  refine ⟨script.run_eq, fun before after _ => ?_, fun writer balanced => ?_⟩
  · intro quiet loud
    have silent : quiet = write { indentSize := size, debugging := false }
        (String.join (before.map Act.shown)) := replay_of_quiet rfl before
    obtain ⟨output, reached⟩ :=
      @replay_of_debugging { indentSize := size, debugging := true } rfl before
    rw [Int.zero_add] at reached
    have settled : loud = ⟨size, true, level before, output⟩ := reached
    refine ⟨by rw [silent]; rfl, by rw [silent]; exact String.empty_append, by rw [settled], ?_⟩
    intro act _ _
    rw [settled, act.on_of_debugging rfl]
  · have ended : ((Script.block script).run writer).1 = script.exit := by
      rw [Script.run_eq]
      rfl
    exact ⟨ended, Script.block_indents balanced writer⟩

/-- An error inside two blocks closes both. Behind a negative counter there are no spaces, not even
for levels of a negative size. -/
example :
    let inner := Script.block (.andThen (.perform (.debugln "in")) .fail)
    let script := Script.andThen (.attempt (.block inner) (.perform (.print "caught ")))
      (.andThen (.perform .dedent) (.perform (.println "out")))
    script.run { indentSize := 2, debugging := true } =
      (.finished, ⟨2, true, -1, "    in\ncaught out\n"⟩) ∧
    script.run { indentSize := -2, debugging := true } =
      (.finished, ⟨-2, true, -1, "in\ncaught out\n"⟩) := by
  decide +kernel

end Writer

end Abacus
