import Abacus.Program
import Abacus.Proofs.Isolation
import Abacus.Proofs.Progress
import Abacus.Proofs.RoundTrip
import Abacus.Proofs.Typing

/-!
# Answers on a line and to a command

An answer is put together twice: as one text for a line, and as a value beside two outputs for a
command. The tree, the trace and what came of the source are the same in both, but they stand in
different places. To a command, the tree is written in front of the trace; on a line, it is part of
the answer and comes behind it.

Results:
1. `exists_account`: a source that does not fail for the length of a literal comes to a value or to
   an error.
2. `Account.answerLine_eq` and `Account.answerCommand_eq`: the answers that follow from that.
3. `CommandLine.request_expression_iff`: when a source can be given as the value of its option.
4. `answers_agree`: how the two answers to a source agree, and what the program makes of them.
-/

namespace Abacus

open CommandLine

/-! ## Writers without indentation -/

namespace Writer

/-- Writes what is shown of a tree, which is a line or nothing at all. -/
def showing (writer : Writer) (shown : String) : Writer :=
  if shown = "" then writer else writer.print shown

theorem showing_flush {writer : Writer} (flush : writer.indents = 0) (shown : String) :
    writer.showing shown = writer.write shown := by
  unfold showing
  split
  · rename_i nothing
    rw [nothing, write_empty]
  · exact print_flush flush shown

end Writer

/-! ## Trees of sources -/

/-- A tree that derives holds no other operators than those of the language. -/
theorem Derives.isProper {phrase : Phrase} {tokens : List Token} {expr : Expr}
    (h : Derives phrase tokens expr) : expr.isProper = true := by
  induction h with
  | literal literal =>
    rcases Token.literal?_cases literal with ⟨-, rfl⟩ | ⟨-, rfl⟩ | ⟨-, rfl⟩ <;> rfl
  | grouping _ _ _ ih => exact ih
  | primary _ ih => exact ih
  | unary listed _ ih => exact (Bool.and_eq_true _ _).mpr ⟨mem_unaryOperators_iff.mp listed, ih⟩
  | operand _ ih => exact ih
  | binary _ listed _ left right =>
    refine (Bool.and_eq_true _ _).mpr ⟨(Bool.and_eq_true _ _).mpr ⟨?_, left⟩, right⟩
    exact binaryOp?_of_level? (Level.mem_operators_iff.mp listed)

/-- The numerals of the tree of a source are short. -/
theorem short_of_parse {source : String} {expr : Expr} (h : parse source = .ok expr) :
    expr.NumeralsShort :=
  (derives_of_parse h).short (fits_of_parse h)

/-- The value of a source can be displayed. -/
theorem display?_of_parse {source : String} {expr : Expr} (h : parse source = .ok expr)
    {writer : Writer} {value : Value} (evaluated : (evaluate expr writer).1 = .ok value) :
    value.display? = some value.display :=
  Value.display?_of_short (Expr.short_of_meaning (short_of_parse h) (meaning_of_evaluate evaluated))

/-- The tree of a source can be shown. -/
theorem exists_print {source : String} {expr : Expr} (h : parse source = .ok expr) :
    ∃ text, expr.print = .ok text := by
  obtain ⟨text, written⟩ :=
    Style.tree.exists_layout (derives_of_parse h).foreigns_eq (short_of_parse h)
  exact ⟨text, (Style.write_eq_layout Style.tree expr).trans written⟩

/-- The tree of a source has a value or fails with an error of evaluation. -/
theorem evaluate_cases_of_parse {source : String} {expr : Expr} (h : parse source = .ok expr)
    (writer : Writer) :
    (∃ value after, evaluate expr writer = (.ok value, after)) ∨
      ∃ error after, evaluate expr writer = (.error (.failed error), after) := by
  have outcome : (∃ value, (evaluate expr writer).1 = .ok value) ∨
      ∃ error, (evaluate expr writer).1 = .error (.failed error) := by
    by_cases shallow : ∀ root, (evaluate expr writer).1 ≠ tooDeep root
    · rw [evaluate_fst shallow fun _ => short_of_parse h]
      exact (Expr.meaning_settles (derives_of_parse h).isProper).ok_or_failed
    · obtain ⟨root, deep⟩ := not_forall_not.mp shallow
      exact .inr ⟨_, deep⟩
  rcases outcome with ⟨value, means⟩ | ⟨error, fails⟩
  · exact .inl ⟨value, _, Prod.ext means rfl⟩
  · exact .inr ⟨error, _, Prod.ext fails rfl⟩

/-! ## What comes of a source -/

/-- `Shows source showTree shown`: what is shown of the tree of a source is a line with that tree,
if it is asked for and there is one. -/
inductive Shows (source : String) : Bool → String → Prop
  | tree {expr : Expr} {text : String} :
      parse source = .ok expr → expr.print = .ok text → Shows source true (text ++ "\n")
  | hidden : Shows source false ""
  | rejected {showTree : Bool} {error : ParseError} :
      parse source = .error error → Shows source showTree ""

theorem exists_shows (source : String) (showTree : Bool) :
    ∃ shown, Shows source showTree shown := by
  cases parsed : parse source with
  | error error => exact ⟨_, .rejected parsed⟩
  | ok expr =>
    obtain ⟨text, printed⟩ := exists_print parsed
    cases showTree with
    | false => exact ⟨_, .hidden⟩
    | true => exact ⟨_, .tree parsed printed⟩

/-- `Account source writer value? text after`: a source comes to a value, which the text displays,
or to none, and the text says why. Its evaluation takes one writer to another. -/
inductive Account (source : String) (writer : Writer) : Option Value → String → Writer → Prop
  | rejected {error : SyntaxError} :
      parse source = .error (.rejected error) → Account source writer none error.answer writer
  | failed {expr : Expr} {error : EvalError} {after : Writer} :
      parse source = .ok expr → evaluate expr writer = (.error (.failed error), after) →
      Account source writer none error.answer after
  | value {expr : Expr} {value : Value} {after : Writer} :
      parse source = .ok expr → evaluate expr writer = (.ok value, after) →
      Account source writer (some value) value.display after

/-- There is an account of a source unless it fails for the length of a literal. -/
theorem exists_account {source : String}
    (short : ∀ failure, parse source ≠ .error (.numeralTooLong failure)) (writer : Writer) :
    ∃ value? text after, Account source writer value? text after := by
  cases parsed : parse source with
  | error error =>
    cases error with
    | rejected error => exact ⟨_, _, _, .rejected parsed⟩
    | numeralTooLong failure => exact absurd parsed (short failure)
  | ok expr =>
    rcases evaluate_cases_of_parse parsed writer with ⟨value, after, evaluated⟩ |
      ⟨error, after, evaluated⟩
    · exact ⟨_, _, _, .value parsed evaluated⟩
    · exact ⟨_, _, _, .failed parsed evaluated⟩

namespace Account

variable {source : String} {writer after : Writer} {value? : Option Value} {text : String}

/-- The account of a source on a writer is that on a fresh one, and the same trace is added. -/
theorem of_fresh (account : Account source writer.fresh value? text after) :
    Account source writer value? text (writer.write after.output) := by
  cases account with
  | rejected parsed =>
    have nothing : writer.write writer.fresh.output = writer := writer.write_empty
    rw [nothing]
    exact .rejected parsed
  | failed parsed evaluated =>
    refine .failed parsed ?_
    rw [(adds_evaluate _ writer).eq_fresh, evaluated]
  | value parsed evaluated =>
    refine .value parsed ?_
    rw [(adds_evaluate _ writer).eq_fresh, evaluated]

/-- What is written for an account is the trace of the source. -/
theorem run_snd (account : Account source writer value? text after) :
    (run source writer).2 = after := by
  cases account with
  | rejected parsed => rw [run, parsed]
  | failed parsed evaluated | value parsed evaluated =>
    rw [run, parsed]
    dsimp only
    rw [evaluated]

end Account

/-! ## Both answers -/

namespace Shows

variable {source shown : String} {showTree : Bool} {expr : Expr}

/-- On a line, the tree is made into text of its own. -/
theorem onLine (shows : Shows source showTree shown) (parsed : parse source = .ok expr) :
    (if showTree then expr.print.map (· ++ "\n") else .ok "") = .ok shown := by
  cases shows with
  | @tree own text parsed' printed =>
    cases parsed.symm.trans parsed'
    rw [if_pos rfl, printed, Except.map]
  | hidden => rfl
  | rejected failed => cases parsed.symm.trans failed

/-- To a command, the tree is written. -/
theorem toCommand (shows : Shows source showTree shown) (parsed : parse source = .ok expr)
    (writer : Writer) :
    (if showTree then expr.print.map writer.println else .ok writer) =
      .ok (writer.showing shown) := by
  cases shows with
  | @tree own text parsed' printed =>
    cases parsed.symm.trans parsed'
    have visible : text ++ "\n" ≠ "" := by simp
    rw [if_pos rfl, printed, Except.map, Writer.showing, if_neg visible]
    rfl
  | hidden => rfl
  | rejected failed => cases parsed.symm.trans failed

/-- A rejected source has no tree to show. -/
theorem eq_empty (shows : Shows source showTree shown) {error : ParseError}
    (failed : parse source = .error error) : shown = "" := by
  cases shows with
  | tree parsed => cases failed.symm.trans parsed
  | hidden => rfl
  | rejected => rfl

end Shows

/-- The answer to a command whose source comes to a value, or to none for the reason that the text
gives. -/
def CommandAnswer.ofAccount : Option Value → String → CommandAnswer
  | some value, _ => ⟨some value, ""⟩
  | none, text => ⟨none, text ++ "\n"⟩

namespace Account

variable {source shown text : String} {showTree : Bool} {writer after : Writer}
  {value? : Option Value}

/-- The answer to a line is what is shown of the tree and the text of the account behind it. -/
theorem answerLine_eq (account : Account source writer value? text after)
    (shows : Shows source showTree shown) :
    answerLine source showTree writer = (.ok (shown ++ text), after) := by
  cases account with
  | rejected failed =>
    rw [answerLine_of_rejected failed, shows.eq_empty failed, String.empty_append]
  | failed parsed evaluated =>
    rw [answerLine, parsed]
    dsimp only
    rw [shows.onLine parsed]
    dsimp only
    rw [evaluated]
  | value parsed evaluated =>
    rw [answerLine, parsed]
    dsimp only
    rw [shows.onLine parsed]
    dsimp only
    rw [evaluated]
    dsimp only
    rw [display?_of_parse parsed (congrArg Prod.fst evaluated)]

/-- The answer to a command is that of the account, which starts behind what is shown of the
tree. -/
theorem answerCommand_eq (account : Account source (writer.showing shown) value? text after)
    (shows : Shows source showTree shown) :
    answerCommand source showTree writer = (.ok (.ofAccount value? text), after) := by
  cases account with
  | rejected failed =>
    rw [answerCommand_of_rejected failed, shows.eq_empty failed]
    rfl
  | failed parsed evaluated | value parsed evaluated =>
    rw [answerCommand, parsed]
    dsimp only
    rw [shows.toCommand parsed]
    dsimp only
    rw [evaluated]
    rfl

end Account

theorem answerLine_of_numeralTooLong {source : String} {failure : Numeral.TooLong}
    (h : parse source = .error (.numeralTooLong failure)) (showTree : Bool) (writer : Writer) :
    answerLine source showTree writer = (.error (.numeralTooLong failure), writer) := by
  rw [answerLine, h]

theorem answerCommand_of_numeralTooLong {source : String} {failure : Numeral.TooLong}
    (h : parse source = .error (.numeralTooLong failure)) (showTree : Bool) (writer : Writer) :
    answerCommand source showTree writer = (.error (.numeralTooLong failure), writer) := by
  rw [answerCommand, h]

/-- A source is answered on a line unless it fails for the length of a literal. -/
theorem answerLine_cases (source : String) (showTree : Bool) (writer : Writer) :
    (∃ answer after, answerLine source showTree writer = (.ok answer, after)) ∨
      ∃ failure, parse source = .error (.numeralTooLong failure) ∧
        answerLine source showTree writer = (.error (.numeralTooLong failure), writer) := by
  by_cases short : ∀ failure, parse source ≠ .error (.numeralTooLong failure)
  · obtain ⟨shown, shows⟩ := exists_shows source showTree
    obtain ⟨value?, text, after, account⟩ := exists_account short writer
    exact .inl ⟨_, _, account.answerLine_eq shows⟩
  · obtain ⟨failure, long⟩ := not_forall_not.mp short
    exact .inr ⟨failure, long, answerLine_of_numeralTooLong long showTree writer⟩

/-- A command is answered unless it fails for the length of a literal. -/
theorem answerCommand_cases (source : String) (showTree : Bool) (writer : Writer) :
    (∃ answer after, answerCommand source showTree writer = (.ok answer, after)) ∨
      ∃ failure, parse source = .error (.numeralTooLong failure) ∧
        answerCommand source showTree writer = (.error (.numeralTooLong failure), writer) := by
  by_cases short : ∀ failure, parse source ≠ .error (.numeralTooLong failure)
  · obtain ⟨shown, shows⟩ := exists_shows source showTree
    obtain ⟨value?, text, after, account⟩ := exists_account short (writer.showing shown)
    exact .inl ⟨_, _, account.answerCommand_eq shows⟩
  · obtain ⟨failure, long⟩ := not_forall_not.mp short
    exact .inr ⟨failure, long, answerCommand_of_numeralTooLong long showTree writer⟩

/-! ## Commands -/

namespace CommandLine

/-- The arguments that ask for the tree and for the trace. -/
def flagArguments (showTree debug : Bool) : List String :=
  (if showTree then ["--tree"] else []) ++ if debug then ["--debug"] else []

/-- The same arguments once they are sorted. -/
def sortedFlags (showTree debug : Bool) : List Argument :=
  (if showTree then [.flag .tree false none] else []) ++
    if debug then [.flag .debug false none] else []

theorem sortArguments_flagArguments (showTree debug : Bool) :
    sortArguments (flagArguments showTree debug) = .ok (sortedFlags showTree debug) := by
  cases showTree <;> cases debug <;> decide

theorem useArguments_sortedFlags (source : String) (showTree debug : Bool) :
    useArguments (.flag .expression true none :: .plain source :: sortedFlags showTree debug) {} []
      = .evaluate ⟨some source, showTree, debug⟩ := by
  cases showTree <;> cases debug <;> rfl

/-- A source in the argument after its option is evaluated exactly if that argument is no option
and does not look like one. -/
theorem request_expression_iff (source : String) (showTree debug : Bool) :
    request ("-c" :: source :: flagArguments showTree debug) =
        .evaluate ⟨some source, showTree, debug⟩ ↔
      sortArgument source = .ok (.plain source) := by
  have option : sortArgument "-c" = .ok (.flag .expression true none) := by decide
  have sorted : sortArguments ("-c" :: source :: flagArguments showTree debug) =
      (sortArguments (source :: flagArguments showTree debug)).map
        (.flag .expression true none :: ·) := by
    rw [sortArguments, if_neg (by decide), option]
  rw [request, sorted, sortArguments, sortArguments_flagArguments]
  by_cases dashes : source = "--"
  · subst dashes
    have several : sortArgument "--" ≠ .ok (.plain "--") := by decide
    rw [if_pos rfl]
    exact iff_of_false (fun same => by cases same) several
  · rw [if_neg dashes]
    cases sortArgument source with
    | error misuse => exact iff_of_false (fun same => by cases same) (fun same => by cases same)
    | ok argument =>
      cases argument with
      | flag flag oneDash attached =>
        exact iff_of_false (fun same => by cases same) (fun same => by cases same)
      | stray text => exact iff_of_false (fun same => by cases same) (fun same => by cases same)
      | plain text =>
        simp only [Except.map, useArguments_sortedFlags]
        simp

end CommandLine

/-- What the program leaves behind for one expression. -/
theorem respond_evaluate {arguments : List String} {source : String} {options : Options}
    (asks : request arguments = .evaluate options) (given : options.expression = some source)
    (input : String) : respond arguments input = evaluateOnce source options := by
  rw [respond, asks]
  dsimp only
  rw [given]

/-- A value is the last thing written. -/
theorem evaluateOnce_of_value {source : String} {options : Options} {value : Value}
    {after : Writer} (flush : after.indents = 0) (shown : value.display? = some value.display)
    (answered : answerCommand source options.showTree options.writer =
      (.ok ⟨some value, ""⟩, after)) :
    evaluateOnce source options = ⟨.exit 0, after.output ++ value.display ++ "\n", ""⟩ := by
  rw [evaluateOnce, answered]
  dsimp only
  rw [shown]
  dsimp only
  rw [Writer.println_flush flush, Writer.write, String.append_assoc]

/-- Errors are kept apart from what was written before. -/
theorem evaluateOnce_of_errors {source errors : String} {options : Options} {after : Writer}
    (answered : answerCommand source options.showTree options.writer =
      (.ok ⟨none, errors⟩, after)) :
    evaluateOnce source options = ⟨.exit 1, after.output, errors⟩ := by
  rw [evaluateOnce, answered]

/-! ## Agreement -/

/-- Unless a source fails for the length of a literal, its two answers agree. The answer to a
command has either a value or errors. What is written for it is what is shown of the tree and the
trace that is written for the line; the line is answered by what is shown of the tree and the value
or the errors. However the source is given to the program as its expression, the program succeeds
exactly if there is a value, and writes it last. It can be given as the value of its option if it
does not look like an option. -/
theorem answers_agree (source : String) (showTree debug : Bool)
    (short : ∀ failure, parse source ≠ .error (.numeralTooLong failure)) :
    ∃ shown answer told written traced,
      Shows source showTree shown ∧
      answerCommand source showTree { debugging := debug } = (.ok answer, written) ∧
      answerLine source showTree { debugging := debug } = (.ok told, traced) ∧
      written.output = shown ++ traced.output ∧
      (answer.value.isSome = true ↔ answer.errors = "") ∧
      ((∃ value, answer = ⟨some value, ""⟩ ∧ told = shown ++ value.display ∧
          ∀ arguments input, request arguments = .evaluate ⟨some source, showTree, debug⟩ →
            respond arguments input =
              ⟨.exit 0, written.output ++ value.display ++ "\n", ""⟩) ∨
        ∃ text, answer = ⟨none, text ++ "\n"⟩ ∧ told = shown ++ text ∧
          ∀ arguments input, request arguments = .evaluate ⟨some source, showTree, debug⟩ →
            respond arguments input = ⟨.exit 1, written.output, text ++ "\n"⟩) ∧
      (request ("-c" :: source :: flagArguments showTree debug) =
          .evaluate ⟨some source, showTree, debug⟩ ↔
        sortArgument source = .ok (.plain source)) := by
  obtain ⟨shown, shows⟩ := exists_shows source showTree
  obtain ⟨value?, text, traced, account⟩ := exists_account short { debugging := debug }
  have line := account.answerLine_eq shows
  -- The evaluation for the command starts behind the tree that was written.
  have behind : Account source (Writer.showing { debugging := debug } shown) value? text
      ((Writer.write { debugging := debug } shown).write traced.output) := by
    rw [Writer.showing_flush rfl]
    exact Account.of_fresh account
  have command := behind.answerCommand_eq shows
  have programs : ∀ arguments input,
      request arguments = .evaluate ⟨some source, showTree, debug⟩ →
        respond arguments input = evaluateOnce source ⟨some source, showTree, debug⟩ :=
    fun _ input asks => respond_evaluate asks rfl input
  refine ⟨shown, _, _, _, traced, shows, command, line, ?_, ?_, ?_,
    request_expression_iff source showTree debug⟩
  · simp [Writer.write]
  · cases value? with
    | some value => simp [CommandAnswer.ofAccount]
    | none => simp [CommandAnswer.ofAccount]
  · cases account with
    | value parsed evaluated =>
      have display := display?_of_parse parsed (congrArg Prod.fst evaluated)
      refine .inl ⟨_, rfl, rfl, fun arguments input asks => ?_⟩
      rw [programs arguments input asks, evaluateOnce_of_value rfl display command]
    | rejected | failed =>
      refine .inr ⟨_, rfl, rfl, fun arguments input asks => ?_⟩
      rw [programs arguments input asks, evaluateOnce_of_errors command]

/-- A division by zero behind a sum: the tree, the trace of the sum, and the error. -/
theorem answers_agree_divided :
    (∀ failure, parse "(1 + 2) / 0" ≠ .error (.numeralTooLong failure)) ∧
    respond ["--tree", "-c", "(1 + 2) / 0", "--debug"] "" =
      ⟨.exit 1, "(/ (Group (+ (IntLit 1) (IntLit 2))) (IntLit 0))\n" ++
          "   [(+ (IntLit 1) (IntLit 2)) => 3]\n",
        "Runtime error: Error at line 1: Division by zero\n"⟩ := by
  have command : answerCommand "(1 + 2) / 0" true { debugging := true } =
      (.ok ⟨none, "Runtime error: Error at line 1: Division by zero\n"⟩,
        { debugging := true, output :=
            "(/ (Group (+ (IntLit 1) (IntLit 2))) (IntLit 0))\n" ++
              "   [(+ (IntLit 1) (IntLit 2)) => 3]\n" }) := by
    decide +kernel
  have short : ∀ failure, parse "(1 + 2) / 0" ≠ .error (.numeralTooLong failure) := by
    intro failure long
    cases (answerCommand_of_numeralTooLong long _ _).symm.trans command
  obtain ⟨shown, answer, told, written, traced, -, answered, -, -, -, outcome, -⟩ :=
    answers_agree "(1 + 2) / 0" true true short
  cases command.symm.trans answered
  refine ⟨short, ?_⟩
  rcases outcome with ⟨value, same, -⟩ | ⟨text, same, -, programs⟩
  · cases same
  · rw [programs _ "" (by decide +kernel), ← (CommandAnswer.mk.inj same).2]

end Abacus
