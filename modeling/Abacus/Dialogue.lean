import Abacus.Session

/-!
# Dialogues

A dialogue prompts for a line and answers it, again and again, until a line says so or the input
ends. Blank lines are passed over. Every line is evaluated on the same writer.

Result: `takeLine_append`: the first line and what follows it are the input.
-/

namespace Abacus

open Text

/-! ## Lines -/

/-- The first line of an input, with its end if it has one, and what follows it. -/
def takeLine : List Char → List Char × List Char
  | [] => ([], [])
  | c :: rest =>
    if c = '\n' then ([c], rest)
    else
      let (line, after) := takeLine rest
      (c :: line, after)

/-- The first line and what follows it are the input. -/
theorem takeLine_append (input : List Char) :
    (takeLine input).1 ++ (takeLine input).2 = input := by
  induction input with
  | nil => rfl
  | cons c rest ih => by_cases ending : c = '\n' <;> simp [takeLine, ending, ih]

/-- An input that goes on has a first line with something in it. -/
theorem takeLine_length (c : Char) (rest : List Char) :
    (takeLine (c :: rest)).2.length ≤ rest.length := by
  induction rest generalizing c with
  | nil => by_cases ending : c = '\n' <;> simp [takeLine, ending]
  | cons next rest ih =>
    by_cases ending : c = '\n'
    · simp [takeLine, ending]
    · have := ih next
      simp only [takeLine, ending, if_false, List.length_cons] at this ⊢
      omega

/-! ## Turns -/

/-- What asks for the next line. -/
def prompt : String := "=> "

/-- What comes after a line was answered. -/
inductive Turn where
  /-- The next line is asked for. -/
  | proceed (writer : Writer)
  /-- The line asked for the dialogue to end. -/
  | stop (writer : Writer)
  /-- The line has no answer, and the dialogue breaks off. -/
  | abandon (reason : Unanswered) (writer : Writer)
  deriving DecidableEq, Repr

/-- Answers one line, of which the white space at the ends does not count. -/
def takeTurn (showTree : Bool) (line : List Char) (writer : Writer) : Turn :=
  let source := strip line
  if source = ['e', 'x', 'i', 't'] then .stop writer
  else if source = [] then .proceed writer
  else
    match answerLine (String.ofList source) showTree writer with
    | (.error reason, after) => .abandon reason after
    | (.ok answer, after) => .proceed (after.println answer)

/-! ## Whole dialogues -/

/-- What is left when a dialogue has ended: all that was written, the input that was not read, and
why the dialogue broke off if it did. -/
structure Transcript where
  writer : Writer
  unread : List Char
  broken : Option Unanswered := none
  deriving DecidableEq, Repr

/-- Answers the lines of an input. -/
def converse (showTree : Bool) (input : List Char) (writer : Writer) : Transcript :=
  let prompted := writer.print prompt
  match input with
  | [] => ⟨prompted.newline, [], none⟩
  | c :: rest =>
    match takeTurn showTree (takeLine (c :: rest)).1 prompted with
    | .stop after => ⟨after, (takeLine (c :: rest)).2, none⟩
    | .abandon reason after => ⟨after, (takeLine (c :: rest)).2, some reason⟩
    | .proceed after => converse showTree (takeLine (c :: rest)).2 after
termination_by input.length
decreasing_by
  have := takeLine_length c rest
  simp only [List.length_cons]
  omega

end Abacus
