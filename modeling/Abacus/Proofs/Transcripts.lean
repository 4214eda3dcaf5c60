import Abacus.Dialogue
import Abacus.Proofs.Containment

/-!
# What a dialogue answers

A dialogue prompts for a line, answers it and goes on with the writer that the answer leaves. What
one line comes to decides whether it goes on, so the lines of an input fall into those that were
answered and those behind the first one that ends the dialogue: because it says so, or because it
has no answer.

Results:
1. `converse_cases`: a dialogue answers line after line, up to where it ends.
2. `converse_broken_eq_none_iff`: it does not break off if all lines that it is asked have answers.
3. `errors_contained`: what has an answer, for each way of asking.
4. `converse_digits`: a line of too many digits breaks a dialogue off.
-/

namespace Abacus

open Text

/-! ## Lines -/

/-- The lines of an input, each with its end. -/
def lines (input : List Char) : List (List Char) :=
  match input with
  | [] => []
  | c :: rest => (takeLine (c :: rest)).1 :: lines (takeLine (c :: rest)).2
termination_by input.length
decreasing_by
  have shorter := takeLine_length c rest
  rw [List.length_cons]
  exact Nat.lt_succ_of_le shorter

/-- The lines of an input are all of it. -/
theorem flatten_lines (input : List Char) : (lines input).flatten = input := by
  fun_induction lines input with
  | case1 => rfl
  | case2 c rest ih => rw [List.flatten_cons, ih, takeLine_append]

/-- Whether a line asks the dialogue to end. -/
def isExit (line : List Char) : Bool :=
  strip line == ['e', 'x', 'i', 't']

/-- A line that a dialogue can answer. -/
def Answerable (line : List Char) : Prop :=
  ∀ failure, parse (String.ofList (strip line)) ≠ .error (.numeralTooLong failure)

instance (line : List Char) : Decidable (Answerable line) :=
  match parsed : parse (String.ofList (strip line)) with
  | .ok _ => isTrue fun _ long => by cases parsed.symm.trans long
  | .error (.rejected _) => isTrue fun _ long => by cases parsed.symm.trans long
  | .error (.numeralTooLong failure) => isFalse fun short => short failure parsed

/-- The lines that a dialogue is asked to answer: those before one that asks it to end. -/
def asked (input : List Char) : List (List Char) :=
  (lines input).takeWhile (!isExit ·)

theorem answerable_of_blank {line : List Char} (blank : strip line = []) : Answerable line := by
  have rejected : parse (String.ofList []) =
      .error (.rejected ⟨.missingExpression, ⟨.endOfFile, "EOF", 1⟩⟩) := by decide +kernel
  intro failure long
  rw [blank] at long
  cases rejected.symm.trans long

/-! ## Dialogues -/

/-- `Answered showTree lines writer last`: from one writer to another, a dialogue prompts for each
of some lines and answers it. Blank lines have no answer but the next prompt. -/
inductive Answered (showTree : Bool) : List (List Char) → Writer → Writer → Prop
  | none {writer : Writer} : Answered showTree [] writer writer
  | blank {line : List Char} {later : List (List Char)} {writer last : Writer} :
      strip line = [] → Answered showTree later (writer.print prompt) last →
      Answered showTree (line :: later) writer last
  | line {line : List Char} {later : List (List Char)} {writer after last : Writer}
      {answer : String} :
      strip line ≠ [] → isExit line = false →
      answerLine (String.ofList (strip line)) showTree (writer.print prompt) = (.ok answer, after) →
      Answered showTree later (after.println answer) last →
      Answered showTree (line :: later) writer last

/-- `Ends last left transcript`: how a dialogue ends, with the writer after the lines that were
answered and the lines that are left. -/
inductive Ends (last : Writer) : List (List Char) → Transcript → Prop
  | input : Ends last [] ⟨(last.print prompt).newline, [], none⟩
  | exit {line : List Char} {later : List (List Char)} :
      isExit line = true →
      Ends last (line :: later) ⟨last.print prompt, later.flatten, none⟩
  | broken {line : List Char} {later : List (List Char)} {failure : Numeral.TooLong} :
      isExit line = false →
      parse (String.ofList (strip line)) = .error (.numeralTooLong failure) →
      Ends last (line :: later) ⟨last.print prompt, later.flatten, some (.numeralTooLong failure)⟩

/-- What a dialogue does with one line. -/
theorem takeTurn_cases (showTree : Bool) (line : List Char) (writer : Writer) :
    (isExit line = true ∧ takeTurn showTree line writer = .stop writer) ∨
    (strip line = [] ∧ takeTurn showTree line writer = .proceed writer) ∨
    (∃ answer after, strip line ≠ [] ∧ isExit line = false ∧
      answerLine (String.ofList (strip line)) showTree writer = (.ok answer, after) ∧
      takeTurn showTree line writer = .proceed (after.println answer)) ∨
    ∃ failure, isExit line = false ∧
      parse (String.ofList (strip line)) = .error (.numeralTooLong failure) ∧
      takeTurn showTree line writer = .abandon (.numeralTooLong failure) writer := by
  by_cases exits : strip line = ['e', 'x', 'i', 't']
  · exact .inl ⟨beq_iff_eq.mpr exits, if_pos exits⟩
  have goesOn : isExit line = false := beq_eq_false_iff_ne.mpr exits
  by_cases blank : strip line = []
  · refine .inr (.inl ⟨blank, ?_⟩)
    rw [takeTurn, if_neg exits, if_pos blank]
  rcases answerLine_cases (String.ofList (strip line)) showTree writer with
    ⟨answer, after, answered⟩ | ⟨failure, parsed, failed⟩
  · refine .inr (.inr (.inl ⟨answer, after, blank, goesOn, answered, ?_⟩))
    rw [takeTurn, if_neg exits, if_neg blank, answered]
  · refine .inr (.inr (.inr ⟨failure, goesOn, parsed, ?_⟩))
    rw [takeTurn, if_neg exits, if_neg blank, failed]

/-- A dialogue answers line after line, up to the end of its input, a line that asks it to end, or a
line with a literal that is too long. -/
theorem converse_cases (showTree : Bool) (input : List Char) (writer : Writer) :
    ∃ before left last, lines input = before ++ left ∧ Answered showTree before writer last ∧
      Ends last left (converse showTree input writer) := by
  match input with
  | [] =>
    refine ⟨[], [], writer, by rw [lines]; rfl, .none, ?_⟩
    rw [converse]
    exact .input
  | c :: rest =>
    have split : lines (c :: rest) =
        (takeLine (c :: rest)).1 :: lines (takeLine (c :: rest)).2 := by
      rw [lines]
    have unread := flatten_lines (takeLine (c :: rest)).2
    rw [converse]
    rcases takeTurn_cases showTree (takeLine (c :: rest)).1 (writer.print prompt) with
      ⟨exits, turn⟩ | ⟨blank, turn⟩ | ⟨answer, after, shows, goesOn, answered, turn⟩ |
      ⟨failure, goesOn, parsed, turn⟩
    · refine ⟨[], _, writer, split, .none, ?_⟩
      have ends := @Ends.exit writer _ (lines (takeLine (c :: rest)).2) exits
      rw [unread] at ends
      rw [turn]
      exact ends
    · obtain ⟨before, left, last, whole, answers, ends⟩ :=
        converse_cases showTree (takeLine (c :: rest)).2 (writer.print prompt)
      refine ⟨_ :: before, left, last, ?_, .blank blank answers, ?_⟩
      · rw [split, whole, List.cons_append]
      · rw [turn]
        exact ends
    · obtain ⟨before, left, last, whole, answers, ends⟩ :=
        converse_cases showTree (takeLine (c :: rest)).2 (after.println answer)
      refine ⟨_ :: before, left, last, ?_, .line shows goesOn answered answers, ?_⟩
      · rw [split, whole, List.cons_append]
      · rw [turn]
        exact ends
    · refine ⟨[], _, writer, split, .none, ?_⟩
      have ends := @Ends.broken writer _ (lines (takeLine (c :: rest)).2) _ goesOn parsed
      rw [unread] at ends
      rw [turn]
      exact ends
termination_by input.length
decreasing_by
  all_goals
    have shorter := takeLine_length c rest
    rw [List.length_cons]
    exact Nat.lt_succ_of_le shorter

/-- Lines that are answered can be, and do not ask the dialogue to end. -/
theorem Answered.answerable {showTree : Bool} {before : List (List Char)} {writer last : Writer}
    (h : Answered showTree before writer last) :
    ∀ line ∈ before, isExit line = false ∧ Answerable line := by
  induction h with
  | none => exact fun _ mem => absurd mem List.not_mem_nil
  | blank isBlank _ ih =>
    rw [List.forall_mem_cons]
    refine ⟨⟨?_, answerable_of_blank isBlank⟩, ih⟩
    rw [isExit, isBlank]
    rfl
  | line _ goesOn answered _ ih =>
    rw [List.forall_mem_cons]
    refine ⟨⟨goesOn, fun failure long => ?_⟩, ih⟩
    cases (answerLine_of_numeralTooLong long _ _).symm.trans answered

/-- A dialogue does not break off exactly if all lines that it is asked can be answered. -/
theorem converse_broken_eq_none_iff (showTree : Bool) (input : List Char) (writer : Writer) :
    (converse showTree input writer).broken = none ↔ ∀ line ∈ asked input, Answerable line := by
  obtain ⟨before, left, last, split, answered, ends⟩ := converse_cases showTree input writer
  have goesOn : ∀ line ∈ before, (!isExit line) = true := by
    intro line mem
    rw [(answered.answerable line mem).1]
    rfl
  have front : asked input = before ++ left.takeWhile (!isExit ·) := by
    rw [asked, split, List.takeWhile_append_of_pos goesOn]
  rw [front]
  generalize converse showTree input writer = transcript at ends ⊢
  cases ends with
  | input =>
    rw [List.takeWhile_nil, List.append_nil]
    exact iff_of_true rfl fun line mem => (answered.answerable line mem).2
  | exit exits =>
    rw [List.takeWhile_cons_of_neg (by simp [exits]), List.append_nil]
    exact iff_of_true rfl fun line mem => (answered.answerable line mem).2
  | @broken line _ failure asks parsed =>
    rw [List.takeWhile_cons_of_pos (by simp [asks])]
    refine iff_of_false (by simp) fun all => ?_
    exact all line (by simp) failure parsed

/-! ## A line of too many digits -/

theorem takeLine_line {text : List Char} (within : ∀ c ∈ text, c ≠ '\n') (rest : List Char) :
    takeLine (text ++ '\n' :: rest) = (text ++ ['\n'], rest) := by
  induction text with
  | nil => rfl
  | cons c text ih =>
    rw [List.cons_append, takeLine, if_neg (within c List.mem_cons_self),
      ih fun d mem => within d (List.mem_cons_of_mem _ mem)]
    rfl

theorem strip_line {text : List Char} (shows : ∀ c ∈ text, isBlank c = false) :
    strip (text ++ ['\n']) = text := by
  have reversed : (text ++ ['\n']).reverse = ['\n'] ++ text.reverse := by simp
  have newline : ∀ c ∈ ['\n'], isBlank c = true := List.forall_mem_singleton.mpr rfl
  have others : ∀ c ∈ text.reverse.head?, isBlank c = false :=
    fun c mem => shows c (List.mem_reverse.mp (List.mem_of_mem_head? mem))
  cases text with
  | nil => rfl
  | cons c text =>
    have kept : (c :: text ++ ['\n']).dropWhile isBlank = c :: text ++ ['\n'] := by
      rw [List.cons_append, List.dropWhile_cons_of_neg (by simp [shows c List.mem_cons_self])]
    rw [strip, kept, reversed, (Piece.takeWhile_run newline others).2, List.reverse_reverse]

/-- A line of too many digits breaks a dialogue off, and the lines behind it are not read. -/
theorem converse_digits {digits : List Char} (within : ∀ c ∈ digits, c.isDigit = true)
    (long : Numeral.maxDigits < digits.length) (showTree : Bool) (rest : List Char)
    (writer : Writer) :
    converse showTree (digits ++ '\n' :: rest) writer =
      ⟨writer.print prompt, rest, some (.numeralTooLong ⟨digits.length⟩)⟩ := by
  have stripped : strip (digits ++ ['\n']) = digits :=
    strip_line fun c mem => isBlank_of_isDigit (within c mem)
  have line : takeLine (digits ++ '\n' :: rest) = (digits ++ ['\n'], rest) := by
    refine takeLine_line ?_ rest
    rintro c mem rfl
    cases within _ mem
  have turn : takeTurn showTree (digits ++ ['\n']) (writer.print prompt) =
      .abandon (.numeralTooLong ⟨digits.length⟩) (writer.print prompt) := by
    have noExit : digits ≠ ['e', 'x', 'i', 't'] := by
      rintro rfl
      cases within 'e' List.mem_cons_self
    have nonempty : digits ≠ [] := by
      rintro rfl
      cases long
    rw [takeTurn, stripped, if_neg noExit, if_neg nonempty,
      answerLine_of_numeralTooLong (parse_digits within long)]
  cases digits with
  | nil => cases long
  | cons digit others =>
    rw [List.cons_append] at line ⊢
    rw [converse, line, turn]

/-! ## What has an answer -/

/-- A source has a tree, or is rejected, or has a literal of too many digits where an operand is
expected. A literal of fewer digits that is out of range is rejected. A source is answered, on a
line or to a command, unless it has a literal that is too long, and a dialogue answers all its lines
up to one that asks it to end, or breaks off at the first one with such a literal. -/
theorem errors_contained (source : String) (showTree : Bool) (writer : Writer)
    (input : List Char) :
    ((∃ expr, parse source = .ok expr) ∨ (∃ error, parse source = .error (.rejected error)) ∨
      ∃ token, Reached source token ∧ token.kind = .integerLiteral ∧
        Numeral.maxDigits < token.lexeme.length ∧
        parse source = .error (.numeralTooLong ⟨token.lexeme.length⟩)) ∧
    (∀ token, Reached source token → token.kind = .integerLiteral →
      token.lexeme.length ≤ Numeral.maxDigits → Integer.greatest < token.number →
      (∃ found, parse source = .error (.rejected ⟨.nestedTooDeeply, found⟩)) ∨
        parse source = .error (.rejected ⟨.integerOutOfRange, token⟩)) ∧
    (∀ token, Reached source token → token.kind = .integerLiteral →
      Numeral.maxDigits < token.lexeme.length →
      (∃ found, parse source = .error (.rejected ⟨.nestedTooDeeply, found⟩)) ∨
        parse source = .error (.numeralTooLong ⟨token.lexeme.length⟩)) ∧
    ((∃ answer, (answerLine source showTree writer).1 = .ok answer) ↔
      ∀ failure, parse source ≠ .error (.numeralTooLong failure)) ∧
    ((∃ answer, (answerCommand source showTree writer).1 = .ok answer) ↔
      ∀ failure, parse source ≠ .error (.numeralTooLong failure)) ∧
    (∃ before left last, lines input = before ++ left ∧ Answered showTree before writer last ∧
      Ends last left (converse showTree input writer)) ∧
    ((converse showTree input writer).broken = none ↔ ∀ line ∈ asked input, Answerable line) := by
  refine ⟨?_, ?_, ?_, ?_, ?_, converse_cases showTree input writer,
    converse_broken_eq_none_iff showTree input writer⟩
  · cases parsed : parse source with
    | ok expr => exact .inl ⟨expr, rfl⟩
    | error error =>
      cases error with
      | rejected error => exact .inr (.inl ⟨error, rfl⟩)
      | numeralTooLong failure =>
        obtain ⟨token, reached, kind, long, rfl⟩ := exists_of_numeralTooLong parsed
        exact .inr (.inr ⟨token, reached, kind, long, rfl⟩)
  · intro token reached kind short large
    refine parse_of_unfit reached ?_
    rw [Token.unfit?, if_pos kind, if_neg (Nat.not_lt.mpr short), if_pos large]
  · intro token reached kind long
    refine parse_of_unfit reached ?_
    rw [Token.unfit?, if_pos kind, if_pos long]
  · exact answered_iff (answerLine_cases source showTree writer)
      fun failure long => answerLine_of_numeralTooLong long showTree writer
  · exact answered_iff (answerCommand_cases source showTree writer)
      fun failure long => answerCommand_of_numeralTooLong long showTree writer

/-- A literal of few digits that is out of range is rejected, so its source has an answer, and so
have the lines of a dialogue with such a one. -/
theorem large_literal_answered :
    parse "(7\n-2147483648" =
      .error (.rejected ⟨.integerOutOfRange, ⟨.integerLiteral, "2147483648", 2⟩⟩) ∧
    (∃ answer, (answerLine "(7\n-2147483648" true {}).1 = .ok answer) ∧
    (converse true " 2147483648\n\n exit \n1".toList {}).broken = none := by
  have parsed : parse "(7\n-2147483648" =
      .error (.rejected ⟨.integerOutOfRange, ⟨.integerLiteral, "2147483648", 2⟩⟩) := by
    decide +kernel
  have reached : Reached "(7\n-2147483648" ⟨.integerLiteral, "2147483648", 2⟩ :=
    ⟨[⟨.leftParen, "(", 1⟩, ⟨.integerLiteral, "7", 1⟩, ⟨.minus, "-", 2⟩], [], 1,
      by decide +kernel, rfl⟩
  obtain ⟨-, large, -, line, -, -, dialogue⟩ :=
    errors_contained "(7\n-2147483648" true {} " 2147483648\n\n exit \n1".toList
  refine ⟨?_, ?_, ?_⟩
  · rcases large _ reached rfl (by decide) (by decide) with ⟨found, deep⟩ | rejected
    · cases parsed.symm.trans deep
    · exact rejected
  · refine line.mpr fun failure long => ?_
    cases parsed.symm.trans long
  · have beforeExit : asked " 2147483648\n\n exit \n1".toList =
        [" 2147483648\n".toList, ['\n']] := by
      decide +kernel
    have rejected : parse "2147483648" =
        .error (.rejected ⟨.integerOutOfRange, ⟨.integerLiteral, "2147483648", 1⟩⟩) := by
      decide +kernel
    rw [dialogue, beforeExit, List.forall_mem_cons, List.forall_mem_singleton]
    refine ⟨fun failure long => ?_, answerable_of_blank (by decide)⟩
    cases rejected.symm.trans long

/-- One digit more than there may be: no tree, no rejection and no answer, and the next line of a
dialogue is not read. -/
theorem long_literal_escapes :
    (¬∃ expr, parse (String.ofList (List.replicate 4301 '1')) = .ok expr) ∧
    (¬∃ error, parse (String.ofList (List.replicate 4301 '1')) = .error (.rejected error)) ∧
    (¬∃ answer, (answerLine (String.ofList (List.replicate 4301 '1')) false {}).1 = .ok answer) ∧
    (¬∃ answer,
      (answerCommand (String.ofList (List.replicate 4301 '1')) false {}).1 = .ok answer) ∧
    converse false (List.replicate 4301 '1' ++ ['\n', '1', '\n']) {} =
      ⟨{ output := "=> " }, ['1', '\n'], some (.numeralTooLong ⟨4301⟩)⟩ := by
  have within : ∀ c ∈ List.replicate 4301 '1', c.isDigit = true := by
    intro c mem
    rw [List.eq_of_mem_replicate mem]
    rfl
  have length : (List.replicate 4301 '1').length = 4301 := List.length_replicate
  have long : Numeral.maxDigits < (List.replicate 4301 '1').length := by
    rw [length]
    decide
  have parsed := parse_digits within long
  have broken := converse_digits within long false ['1', '\n'] {}
  rw [length] at parsed broken
  refine ⟨?_, ?_, ?_, ?_, broken⟩
  · rintro ⟨expr, accepted⟩
    cases parsed.symm.trans accepted
  · rintro ⟨error, rejected⟩
    cases parsed.symm.trans rejected
  · rintro ⟨answer, answered⟩
    rw [answerLine_of_numeralTooLong parsed] at answered
    cases answered
  · rintro ⟨answer, answered⟩
    rw [answerCommand_of_numeralTooLong parsed] at answered
    cases answered

end Abacus
