import Abacus.Grammar.Lexeme

/-!
# Scanning

The lexemes of expressions are found with the place in the sentence in view: where an operand may
start, only what starts one is looked for, and behind an operand only what may follow one. Where
none of that is there, all terminals are tried, to say what stands there instead.

Results:
1. `scan_end`, `scan_found`, `scan_unfound` and `scan_unknown`: what scanning comes to, by what
   stands behind the white space.
-/

namespace Abacus.Grammar

/-! ## What is expected -/

/-- What may stand at a place of a sentence. -/
inductive Expected where
  | operand | operator
  deriving DecidableEq, Repr

namespace Expected

/-- Operands start with a unary operator, a literal or an opening parenthesis; after an operand
there is a binary operator or a closing parenthesis. -/
def admits : Expected → Token.Kind → Bool
  | .operand, .bang | .operand, .minus | .operand, .leftParen => true
  | .operand, .integerLiteral | .operand, .booleanLiteral | .operand, .stringLiteral => true
  | .operator, .equals | .operator, .bangEquals | .operator, .greater => true
  | .operator, .greaterEquals | .operator, .smaller | .operator, .smallerEquals => true
  | .operator, .minus | .operator, .plus | .operator, .star | .operator, .slash => true
  | .operator, .rightParen => true
  | _, _ => false

/-- The terminals that may stand at a place. -/
def terminals (expected : Expected) : List Terminal :=
  Terminal.all.filter (expected.admits ·.kind)

/-- Literals and closing parentheses end an operand; operators and opening parentheses want one. -/
def following : Token.Kind → Expected
  | .integerLiteral | .booleanLiteral | .stringLiteral | .rightParen => .operator
  | _ => .operand

/-- What may stand behind some lexemes. -/
def after (before : List Token.Kind) : Expected :=
  (before.getLast?.map following).getD .operand

end Expected

/-! ## Scanning -/

/-- Why there are no more lexemes. -/
inductive Ending where
  /-- The source has ended. -/
  | finished
  /-- A terminal that may not stand here. -/
  | misplaced (lexeme : Lexeme)
  /-- A character that starts no terminal. -/
  | unknown (c : Char) (place : Place)
  deriving DecidableEq, Repr

/-- The lexemes from a place on, and why there are no more of them. -/
def scan (expected : Expected) (place : Place) (input : List Char) : List Lexeme × Ending :=
  let start := place.advance (input.takeWhile isSpace)
  match _ : input.dropWhile isSpace with
  | [] => ([], .finished)
  | c :: tail =>
    match _ : Terminal.first? expected.terminals (c :: tail) with
    | some (kind, text, rest) =>
      let (lexemes, ending) := scan (Expected.following kind) (start.advance text) rest
      (⟨kind, String.ofList text, start⟩ :: lexemes, ending)
    | none =>
      match Terminal.first? Terminal.all (c :: tail) with
      | some (kind, text, _) => ([], .misplaced ⟨kind, String.ofList text, start⟩)
      | none => ([], .unknown c start)
termination_by input.length
decreasing_by
  rename_i skipped found
  have shorter := Terminal.first?_length found
  have suffix := (List.dropWhile_suffix isSpace (l := input)).length_le
  rw [skipped] at suffix
  omega

/-! ## What scanning comes to -/

section

variable {expected : Expected} {place : Place} {input tail text rest : List Char} {c : Char}
  {kind : Token.Kind}

theorem scan_end (skipped : input.dropWhile isSpace = []) :
    scan expected place input = ([], .finished) := by
  rw [scan]
  split
  · rfl
  · rename_i left
    cases skipped.symm.trans left

theorem scan_found (skipped : input.dropWhile isSpace = c :: tail)
    (found : Terminal.first? expected.terminals (c :: tail) = some (kind, text, rest)) :
    scan expected place input =
      (⟨kind, String.ofList text, place.advance (input.takeWhile isSpace)⟩ ::
          (scan (.following kind) ((place.advance (input.takeWhile isSpace)).advance text) rest).1,
        (scan (.following kind) ((place.advance (input.takeWhile isSpace)).advance text)
          rest).2) := by
  rw [scan]
  split
  · rename_i left
    cases skipped.symm.trans left
  · rename_i left
    cases skipped.symm.trans left
    split
    · rename_i matched
      cases found.symm.trans matched
      rfl
    · rename_i unmatched
      cases found.symm.trans unmatched

theorem scan_unfound (skipped : input.dropWhile isSpace = c :: tail)
    (unfound : Terminal.first? expected.terminals (c :: tail) = none)
    (other : Terminal.first? Terminal.all (c :: tail) = some (kind, text, rest)) :
    scan expected place input =
      ([], .misplaced ⟨kind, String.ofList text, place.advance (input.takeWhile isSpace)⟩) := by
  rw [scan]
  split
  · rename_i left
    cases skipped.symm.trans left
  · rename_i left
    cases skipped.symm.trans left
    split
    · rename_i matched
      cases unfound.symm.trans matched
    · rw [other]

theorem scan_unknown (skipped : input.dropWhile isSpace = c :: tail)
    (unfound : Terminal.first? expected.terminals (c :: tail) = none)
    (unknown : Terminal.first? Terminal.all (c :: tail) = none) :
    scan expected place input =
      ([], .unknown c (place.advance (input.takeWhile isSpace))) := by
  rw [scan]
  split
  · rename_i left
    cases skipped.symm.trans left
  · rename_i left
    cases skipped.symm.trans left
    split
    · rename_i matched
      cases unfound.symm.trans matched
    · rw [unknown]

end

end Abacus.Grammar
