import Abacus.Proofs.Answers
import Abacus.Proofs.Transcripts

/-!
# Dialogues line by line

What a dialogue writes falls into parts, one for each line that it answers: the prompt, the trace of
the line and the answer to it. The lines share a writer, but each part can be told from its line
alone. How the dialogue ends depends on the first line that asks it to, if there is one.

Results:
1. `lines_ended`: the lines of an input are its pieces up to each line end.
2. `Answered.writes`: the lines that were answered have added their parts, one behind the other.
3. `converse_transcript`: all that a dialogue writes and leaves unread.
-/

namespace Abacus

open Text

/-! ## Lines -/

theorem takeLine_last {input : List Char} (within : '\n' ∉ input) :
    takeLine input = (input, []) := by
  induction input with
  | nil => rfl
  | cons c rest ih =>
    obtain ⟨other, behind⟩ := List.ne_and_not_mem_of_not_mem_cons within
    rw [takeLine, if_neg (Ne.symm other), ih behind]

/-- The first line of an input goes up to its first line end, or is all of it. -/
theorem takeLine_cases (input : List Char) :
    (∃ text, '\n' ∉ text ∧ (takeLine input).1 = text ++ ['\n']) ∨
      '\n' ∉ input ∧ takeLine input = (input, []) := by
  by_cases ends : '\n' ∈ input
  · obtain ⟨text, rest, rfl, within⟩ := List.eq_append_cons_of_mem ends
    refine .inl ⟨text, within, ?_⟩
    rw [takeLine_line fun c mem same => within (same ▸ mem)]
  · exact .inr ⟨ends, takeLine_last ends⟩

/-- Every line has something in it and no line end but its own. All but the last have one. -/
theorem lines_ended (input : List Char) :
    (∀ line ∈ lines input, line ≠ [] ∧ '\n' ∉ line.dropLast) ∧
      ∀ line ∈ (lines input).dropLast, line.getLast? = some '\n' := by
  fun_induction lines input with
  | case1 => simp
  | case2 c rest ih =>
    obtain ⟨shaped, ended⟩ := ih
    rw [List.forall_mem_cons]
    rcases takeLine_cases (c :: rest) with ⟨text, within, first⟩ | ⟨within, all⟩
    · rw [first]
      refine ⟨⟨⟨by simp, by simpa using within⟩, shaped⟩, fun line mem => ?_⟩
      cases later : lines (takeLine (c :: rest)).2 with
      | nil =>
        rw [later] at mem
        exact absurd mem List.not_mem_nil
      | cons next others =>
        rw [later] at mem ended
        rw [List.dropLast_cons_of_ne_nil (List.cons_ne_nil _ _)] at mem
        rcases List.mem_cons.mp mem with rfl | mem
        · exact List.getLast?_concat
        · exact ended line mem
    · rw [all, lines]
      refine ⟨⟨⟨List.cons_ne_nil _ _, fun mem => within (List.dropLast_subset _ mem)⟩, ?_⟩, ?_⟩
      · exact fun _ mem => absurd mem List.not_mem_nil
      · exact fun _ mem => absurd mem List.not_mem_nil

/-! ## Parts of a dialogue -/

/-- What a dialogue adds for a line behind the prompt: nothing for a blank line, and otherwise the
trace of the line and the answer to it. -/
def contribution (showTree : Bool) (fresh : Writer) (line : List Char) : String :=
  if strip line = [] then ""
  else
    match answerLine (String.ofList (strip line)) showTree fresh with
    | (.ok answer, after) => after.output ++ answer ++ "\n"
    | (.error _, after) => after.output

/-- The parts of a dialogue for some lines, each behind its prompt. -/
def spoken (showTree : Bool) (fresh : Writer) (before : List (List Char)) : String :=
  String.join (before.map fun line => prompt ++ contribution showTree fresh line)

section

variable {showTree : Bool} {line : List Char} {fresh after : Writer} {value? : Option Value}
  {shown text : String}

theorem contribution_of_blank (blank : strip line = []) : contribution showTree fresh line = "" :=
  if_pos blank

theorem contribution_of_account
    (account : Account (String.ofList (strip line)) fresh value? text after)
    (shows : Shows (String.ofList (strip line)) showTree shown) (visible : strip line ≠ []) :
    contribution showTree fresh line = after.output ++ (shown ++ text) ++ "\n" := by
  rw [contribution, if_neg visible, account.answerLine_eq shows]

end

/-- A line that can be answered contributes its trace, its answer and a line end. -/
theorem contribution_eq (showTree : Bool) (fresh : Writer) {line : List Char}
    (answerable : Answerable line) (visible : strip line ≠ []) :
    ∃ answer, (answerLine (String.ofList (strip line)) showTree fresh).1 = .ok answer ∧
      contribution showTree fresh line =
        (run (String.ofList (strip line)) fresh).2.output ++ answer ++ "\n" := by
  obtain ⟨shown, shows⟩ := exists_shows (String.ofList (strip line)) showTree
  obtain ⟨value?, text, after, account⟩ := exists_account answerable fresh
  refine ⟨shown ++ text, ?_, ?_⟩
  · rw [account.answerLine_eq shows]
  · rw [contribution_of_account account shows visible, account.run_snd]

theorem spoken_cons (showTree : Bool) (fresh : Writer) (line : List Char)
    (later : List (List Char)) :
    spoken showTree fresh (line :: later) =
      prompt ++ contribution showTree fresh line ++ spoken showTree fresh later := by
  rw [spoken, List.map_cons, String.join_cons]
  rfl

/-- The lines that were answered have added their parts, each of which is that on a fresh writer,
one behind the other. -/
theorem Answered.writes {showTree : Bool} {before : List (List Char)} {writer last : Writer}
    (answered : Answered showTree before writer last) (flush : writer.indents = 0) :
    last = writer.write (spoken showTree writer.fresh before) := by
  -- What a line adds changes neither the settings nor the indentation that the next one meets.
  induction answered with
  | none => exact (Writer.write_empty _).symm
  | @blank line later writer last isBlank _ ih =>
    rw [Writer.print_flush flush] at ih
    rw [ih flush, spoken_cons, contribution_of_blank isBlank, String.append_empty,
      Writer.write_write]
    rfl
  | @line line later writer after last answer visible goesOn told rest ih =>
    obtain ⟨-, answerable⟩ :=
      (Answered.line visible goesOn told rest).answerable line List.mem_cons_self
    obtain ⟨shown, shows⟩ := exists_shows (String.ofList (strip line)) showTree
    obtain ⟨value?, text, traced, account⟩ := exists_account answerable writer.fresh
    have behind : Account _ (writer.write prompt) value? text _ := Account.of_fresh account
    rw [Writer.print_flush flush, behind.answerLine_eq shows] at told
    cases told
    have stays : ((writer.write prompt).write traced.output).indents = 0 := flush
    rw [Writer.println_flush stays] at ih
    rw [ih flush, spoken_cons, contribution_of_account account shows visible,
      Writer.write_write, Writer.write_write, Writer.write_write]
    simp only [String.append_assoc]
    rfl

/-! ## Whole dialogues -/

/-- The lines before the first one that asks a dialogue to end, and those from there on. -/
theorem asked_split {input : List Char} {before left : List (List Char)}
    (split : lines input = before ++ left) (goOn : ∀ line ∈ before, isExit line = false)
    (ends : ∀ line ∈ left.head?, isExit line = true) :
    asked input = before ∧ (lines input).dropWhile (!isExit ·) = left := by
  rw [asked, split]
  refine @Piece.takeWhile_run _ (!isExit ·) before left ?_ ?_
  · intro line mem
    rw [goOn line mem, Bool.not_false]
  · intro line mem
    rw [ends line mem, Bool.not_true]

/-- If all lines that a dialogue is asked can be answered, it answers them, and ends at the line
that asks it to or at the end of its input. -/
theorem converse_of_answerable {showTree : Bool} {input : List Char} {writer : Writer}
    (answerable : ∀ line ∈ asked input, Answerable line) :
    ∃ last, Answered showTree (asked input) writer last ∧
      match (lines input).dropWhile (!isExit ·) with
      | [] => converse showTree input writer = ⟨(last.print prompt).newline, [], none⟩
      | _ :: later =>
        converse showTree input writer = ⟨last.print prompt, later.flatten, none⟩ := by
  have unbroken := (converse_broken_eq_none_iff showTree input writer).mpr answerable
  obtain ⟨before, left, last, split, answered, ends⟩ := converse_cases showTree input writer
  have goOn : ∀ line ∈ before, isExit line = false :=
    fun line mem => (answered.answerable line mem).1
  generalize converse showTree input writer = transcript at ends unbroken ⊢
  cases ends with
  | input =>
    obtain ⟨front, rest⟩ := asked_split split goOn fun _ mem => by cases mem
    rw [front, rest]
    exact ⟨last, answered, rfl⟩
  | exit exits =>
    obtain ⟨front, rest⟩ := asked_split split goOn fun _ mem => by cases mem; exact exits
    rw [front, rest]
    exact ⟨last, answered, rfl⟩
  | broken => cases unbroken

/-- If all lines that a dialogue is asked can be answered, it writes for each of them the prompt and
its contribution, and then one more prompt. A line that asks it to end leaves what follows it
unread; at the end of the input, the line of that prompt is ended. The contribution of a line is
what it would be on a fresh writer; for a line that is not blank, it is the trace of the line, the
answer to it and a line end. -/
theorem converse_transcript (showTree : Bool) (input : List Char) (writer : Writer)
    (flush : writer.indents = 0) (answerable : ∀ line ∈ asked input, Answerable line) :
    (lines input).flatten = input ∧
    (∀ line ∈ lines input, line ≠ [] ∧ '\n' ∉ line.dropLast) ∧
    (∀ line ∈ (lines input).dropLast, line.getLast? = some '\n') ∧
    (∀ line, strip line = [] → contribution showTree writer.fresh line = "") ∧
    (∀ line ∈ asked input, strip line ≠ [] → ∃ answer,
      (answerLine (String.ofList (strip line)) showTree writer.fresh).1 = .ok answer ∧
      contribution showTree writer.fresh line =
        (run (String.ofList (strip line)) writer.fresh).2.output ++ answer ++ "\n") ∧
    (∀ before line later, lines input = before ++ line :: later →
      (∀ earlier ∈ before, isExit earlier = false) → isExit line = true →
        asked input = before ∧ converse showTree input writer =
          ⟨writer.write (spoken showTree writer.fresh before ++ prompt), later.flatten, none⟩) ∧
    ((∀ line ∈ lines input, isExit line = false) →
      asked input = lines input ∧ converse showTree input writer =
        ⟨writer.write (spoken showTree writer.fresh (lines input) ++ prompt ++ "\n"), [],
          none⟩) := by
  obtain ⟨shaped, ended⟩ := lines_ended input
  refine ⟨flatten_lines input, shaped, ended, fun _ => contribution_of_blank,
    fun line mem => contribution_eq showTree _ (answerable line mem), ?_, ?_⟩
  · intro before line later split goOn exits
    obtain ⟨last, answered, ends⟩ := converse_of_answerable answerable
    obtain ⟨front, rest⟩ := asked_split split goOn fun _ mem => by cases mem; exact exits
    rw [front] at answered
    rw [rest, answered.writes flush] at ends
    have stays : (writer.write (spoken showTree writer.fresh before)).indents = 0 := flush
    rw [Writer.print_flush stays, Writer.write_write] at ends
    exact ⟨front, ends⟩
  · intro goOn
    obtain ⟨last, answered, ends⟩ := converse_of_answerable answerable
    obtain ⟨front, rest⟩ := asked_split (List.append_nil (lines input)).symm goOn
      fun _ mem => by cases mem
    rw [front] at answered
    rw [rest, answered.writes flush] at ends
    have stays : (writer.write (spoken showTree writer.fresh (lines input))).indents = 0 := flush
    rw [Writer.print_flush stays, Writer.newline, Writer.write_write, Writer.write_write] at ends
    refine ⟨front, ?_⟩
    rw [ends, String.append_assoc]

/-- A sum, a blank line, a failure and a line that asks to end, on a writer that has been used. The
trace of the failed line is indented as on a fresh writer. -/
theorem converse_transcript_used :
    (∀ line ∈ asked "1 + 2\n \n- 1 / 0\nexit\n4\n".toList, Answerable line) ∧
    converse false "1 + 2\n \n- 1 / 0\nexit\n4\n".toList
        { indentSize := 2, debugging := true, output := "4\n" } =
      ⟨{ indentSize := 2, debugging := true, output := "4\n" ++
          "=> [(+ (IntLit 1) (IntLit 2)) => 3]\n3\n" ++
          "=> " ++
          "=>   [(- (IntLit 1)) => -1]\nRuntime error: Error at line 1: Division by zero\n" ++
          "=> " },
        ['4', '\n'], none⟩ := by
  have answerable : ∀ line ∈ asked "1 + 2\n \n- 1 / 0\nexit\n4\n".toList, Answerable line := by
    decide +kernel
  have said : spoken false { indentSize := 2, debugging := true }
      ["1 + 2\n".toList, " \n".toList, "- 1 / 0\n".toList] =
        "=> [(+ (IntLit 1) (IntLit 2)) => 3]\n3\n" ++ "=> " ++
          "=>   [(- (IntLit 1)) => -1]\nRuntime error: Error at line 1: Division by zero\n" := by
    decide +kernel
  obtain ⟨-, -, -, -, -, exits, -⟩ :=
    converse_transcript false "1 + 2\n \n- 1 / 0\nexit\n4\n".toList
      { indentSize := 2, debugging := true, output := "4\n" } rfl answerable
  obtain ⟨-, ended⟩ := exits ["1 + 2\n".toList, " \n".toList, "- 1 / 0\n".toList]
    "exit\n".toList ["4\n".toList] (by decide +kernel) (by decide) rfl
  refine ⟨answerable, ended.trans ?_⟩
  rw [Writer.fresh, Writer.holding, said]
  rfl

end Abacus
