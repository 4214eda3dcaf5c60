import Abacus.Proofs.Agreement
import Abacus.Proofs.Answers
import Abacus.Proofs.Stopping

/-!
# What is not answered

The errors of reading a source and of evaluating its tree are part of the answer to it. One failure
is not, although it is one of reading: an integer literal of too many digits has no value at all,
not even one that is out of range. Where an operand is expected and there is such a literal, reading
fails without an answer.

Results:
1. `parse_of_unfit` and `exists_of_numeralTooLong`: the sources that fail in this way.
2. `parse_digits`: a run of too many digits is one of them.
3. `answered_iff`: all other sources are answered.
-/

namespace Abacus

/-! ## Literals that are too long -/

/-- A token of a source at which reading expects an operand. -/
def Reached (source : String) (token : Token) : Prop :=
  ∃ before after opened, tokenize source = before ++ token :: after ∧
    (Progress.expecting 0).run before = .expecting opened

/-- Where a literal that does not fit is reached, it is what is wrong with the source, unless that
is nested too deeply. -/
theorem parse_of_unfit {source : String} {token : Token} {error : ParseError}
    (reached : Reached source token) (unfit : token.unfit? = some error) :
    (∃ found, parse source = .error (.rejected ⟨.nestedTooDeeply, found⟩)) ∨
      parse source = .error error := by
  obtain ⟨before, after, opened, split, run⟩ := reached
  have refused : survey source = .refused error := by
    rw [survey, split, List.append_assoc, Progress.run_append, run, List.cons_append,
      Progress.run_cons, Progress.step_unfit unfit, Progress.run_refused]
  rcases survey_cases source with deep | ⟨expr, -, accepted⟩ | ⟨own, parsed, ended⟩
  · exact .inl deep
  · cases accepted.symm.trans refused
  · cases ended.symm.trans refused
    exact .inr parsed

/-- A pass is refused for the length of a literal where it expects an operand. -/
theorem Progress.expecting_of_tooLong {start : Progress} {token : Token}
    {failure : Numeral.TooLong} (live : start.Live)
    (refused : start.step token = .refused (.numeralTooLong failure)) :
    (∃ opened, start = .expecting opened) ∧ token.kind = .integerLiteral ∧
      Numeral.maxDigits < token.lexeme.length ∧ failure = ⟨token.lexeme.length⟩ := by
  rcases refused_cases live refused with ⟨expects, unfit⟩ | ⟨cause, is, -⟩
  · refine ⟨expects, ?_⟩
    obtain ⟨kind, ⟨-, -, clash⟩ | ⟨long, same⟩⟩ := Token.unfit?_cases unfit
    · cases clash
    · exact ⟨kind, long, ParseError.numeralTooLong.inj same⟩
  · cases is

/-- Only a literal that is reached and has too many digits makes reading fail without an answer. -/
theorem exists_of_numeralTooLong {source : String} {failure : Numeral.TooLong}
    (h : parse source = .error (.numeralTooLong failure)) :
    ∃ token, Reached source token ∧ token.kind = .integerLiteral ∧
      Numeral.maxDigits < token.lexeme.length ∧ failure = ⟨token.lexeme.length⟩ := by
  have refused : survey source = .refused (.numeralTooLong failure) := by
    rcases survey_cases source with ⟨found, deep⟩ | ⟨expr, parsed, -⟩ | ⟨error, parsed, ended⟩
    · cases h.symm.trans deep
    · cases h.symm.trans parsed
    · cases h.symm.trans parsed
      exact ended
  have starts : (Progress.expecting 0).Live := trivial
  obtain ⟨before, token, after, split, live, last⟩ := Progress.exists_of_run_refused starts refused
  obtain ⟨⟨opened, run⟩, kind, long, rfl⟩ := Progress.expecting_of_tooLong live last
  refine ⟨token, ?_, kind, long, rfl⟩
  -- The end of the source is no literal, so the token is one of the source itself.
  rcases List.eq_nil_or_concat after with rfl | ⟨behind, found, rfl⟩
  · obtain ⟨-, ends⟩ := List.append_inj' split rfl
    rw [← List.singleton_inj.mp ends] at kind
    cases kind
  · have whole : tokenize source ++ [sourceEnd source] =
        (before ++ token :: behind) ++ [found] := by
      simpa using split
    obtain ⟨own, -⟩ := List.append_inj' whole rfl
    exact ⟨before, behind, opened, own, run⟩

/-- A run of too many digits fails without an answer. -/
theorem parse_digits {digits : List Char} (within : ∀ c ∈ digits, c.isDigit = true)
    (long : Numeral.maxDigits < digits.length) :
    parse (String.ofList digits) = .error (.numeralTooLong ⟨digits.length⟩) := by
  have nonempty : digits ≠ [] := by
    rintro rfl
    cases long
  have length : (String.ofList digits).length = digits.length := by
    rw [← String.length_toList, String.toList_ofList]
  have unfit : (⟨.integerLiteral, String.ofList digits, 1⟩ : Token).unfit? =
      some (.numeralTooLong ⟨digits.length⟩) := by
    rw [Token.unfit?, if_pos rfl, length, if_pos long]
  -- Every level fails with its first operand.
  have read : Reads (sourceEnd (String.ofList digits)) nestingAllowance (.phrase .expression)
      (tokenize (String.ofList digits)) (.error (.numeralTooLong ⟨digits.length⟩)) [] := by
    have cut : tokenize (String.ofList digits) = _ :=
      @tokenize_text .integerLiteral digits ⟨nonempty, within⟩
    rw [cut]
    exact .operandFails (.operandFails (.operandFails (.operandFails
      (.primary (fun token mem => by cases mem; rfl) (.unfit unfit)))))
  exact parse_of_reads read

/-! ## What is answered -/

/-- What fails for the length of a literal, and only for that, is answered otherwise. -/
theorem answered_iff {α : Type} {source : String} {outcome : Except Unanswered α × Writer}
    {writer : Writer}
    (either : (∃ answer after, outcome = (.ok answer, after)) ∨
      ∃ failure, parse source = .error (.numeralTooLong failure) ∧
        outcome = (.error (.numeralTooLong failure), writer))
    (fails : ∀ failure, parse source = .error (.numeralTooLong failure) →
      outcome = (.error (.numeralTooLong failure), writer)) :
    (∃ answer, outcome.1 = .ok answer) ↔
      ∀ failure, parse source ≠ .error (.numeralTooLong failure) := by
  constructor
  · rintro ⟨answer, answered⟩ failure long
    rw [fails failure long] at answered
    cases answered
  · intro short
    rcases either with ⟨answer, after, answered⟩ | ⟨failure, long, -⟩
    · exact ⟨answer, congrArg Prod.fst answered⟩
    · exact absurd long (short failure)

end Abacus
