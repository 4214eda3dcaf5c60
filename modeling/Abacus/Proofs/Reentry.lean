import Abacus.Proofs.RoundTrip
import Abacus.Proofs.Nesting
import Abacus.Session

/-!
# Entering displayed values again

A value is displayed as a source text. What evaluation comes to is narrower than what values there
are: its integers are in range, and its strings hold no quote, since they come from literals that
end at the first one. The display form of such a value is a literal, or a literal behind a minus
sign, and it comes to the value again. There is one exception, since the least integer has no
literal to stand behind the sign.

Results:
1. `Derives.meaning_regular`: what a tree that derives can come to.
2. `Value.Regular.entered`: the display form of such a value is a source with that value.
3. `Value.Regular.eq_of_display`: no two such values are displayed alike.
4. `run_display`: entering the display form of what a source came to.
-/

namespace Abacus

open Text

/-! ## What evaluation comes to -/

/-- A literal that fits is a regular value. -/
theorem Token.regular_of_literal? {token : Token} {expr : Expr} {value : Value}
    (literal : token.literal? = some expr) (spelled : token.Spelled) (fits : token.Fits)
    (means : expr.meaning = .ok value) : value.Regular := by
  obtain ⟨kind, lexeme, line⟩ := token
  cases kind <;> cases literal
  case integerLiteral.refl =>
    cases means
    have small := (fits rfl).2
    refine Integer.fits_iff.mpr ⟨?_, ?_⟩
    · unfold Integer.greatest
      omega
    · omega
  case booleanLiteral.refl =>
    cases means
    trivial
  case stringLiteral.refl =>
    cases means
    exact spelled

/-- A tree that derives from the tokens of a source comes to nothing but regular values. -/
theorem Derives.meaning_regular {phrase : Phrase} {tokens : List Token} {expr : Expr}
    {value : Value} (h : Derives phrase tokens expr) (spelled : ∀ token ∈ tokens, token.Spelled)
    (fits : ∀ token ∈ tokens, token.Fits) (means : expr.meaning = .ok value) : value.Regular := by
  induction h with
  | literal literal =>
    exact Token.regular_of_literal? literal (spelled _ List.mem_cons_self)
      (fits _ List.mem_cons_self) means
  | grouping _ _ _ ih =>
    exact ih (forall_mem_grouping spelled).2.1 (forall_mem_grouping fits).2.1 means
  | primary _ ih => exact ih spelled fits means
  | operand _ ih => exact ih spelled fits means
  | unary =>
    obtain ⟨inner, below, -⟩ := bind_eq_ok.mp means
    rw [Expr.meaning_unary below] at means
    exact Token.regular_of_applyUnary (mapError_eq_ok.mp means)
  | binary =>
    obtain ⟨leftValue, before, rest⟩ := bind_eq_ok.mp means
    obtain ⟨rightValue, behind, -⟩ := bind_eq_ok.mp rest
    rw [Expr.meaning_binary before behind] at means
    exact Token.regular_of_applyBinary (mapError_eq_ok.mp means)

/-! ## Sources of one operand -/

/-- An operand with nothing behind it is an expression. -/
theorem parse_of_operand {source : String} {expr : Expr}
    (h : Reads (sourceEnd source) nestingAllowance (.phrase .unary) (tokenize source) (.ok expr)
      []) : parse source = .ok expr := by
  -- No level has an operator to go on with.
  have ends : ∀ level,
      Reads (sourceEnd source) nestingAllowance (.chain level expr) [] (.ok expr) [] :=
    fun level => .stop fun token mem => by cases mem
  have factor : Reads (sourceEnd source) nestingAllowance (.phrase (.level .factor))
      (tokenize source) (.ok expr) [] := .operand h (ends .factor)
  have comparison : Reads (sourceEnd source) nestingAllowance (.phrase (.level .comparison))
      (tokenize source) (.ok expr) [] := .operand (.operand factor (ends .term)) (ends .comparison)
  exact parse_of_reads (.operand comparison (ends .equality))

/-- A literal that fits is read as an operand. -/
theorem reads_literal {token : Token} {expr : Expr} (literal : token.literal? = some expr)
    (fits : token.Fits) (last : Token) (allowance : Nat) (rest : List Token) :
    Reads last allowance (.phrase .unary) (token :: rest) (.ok expr) rest := by
  refine .primary (fun first mem => ?_) (.literal literal (Token.unfit?_eq_none_iff.mpr fits))
  cases mem
  obtain ⟨kind, lexeme, line⟩ := token
  cases kind <;> first | rfl | cases literal

theorem parse_literal {source : String} {token : Token} {expr : Expr}
    (cut : tokenize source = [token]) (literal : token.literal? = some expr) (fits : token.Fits) :
    parse source = .ok expr := by
  refine parse_of_operand ?_
  rw [cut]
  exact reads_literal literal fits _ _ _

theorem parse_signed {source : String} {op token : Token} {expr : Expr}
    (cut : tokenize source = [op, token]) (minus : op.kind = .minus)
    (literal : token.literal? = some expr) (fits : token.Fits) :
    parse source = .ok (.unary op expr) := by
  refine parse_of_operand ?_
  have isOp : op.kind.unaryOp?.isSome = true := by
    rw [minus]
    rfl
  rw [cut]
  exact .unary isOp (reads_literal literal fits _ _ _)

/-- A sign in front of a number changes it. -/
theorem evaluate_signed {op token : Token} {n : Int} (minus : op.kind = .minus)
    (fits : Integer.fits (-n) = true) (writer : Writer) :
    (evaluate (.unary op (.integer token n)) writer).1 = .ok (.integer (-n)) := by
  have applied : op.applyUnary (.integer n) = .ok (.integer (-n)) := by
    rw [Token.applyUnary, minus]
    show (checked (-n)).mapError _ = _
    rw [checked, if_pos fits]
    rfl
  have means : (Expr.unary op (.integer token n)).meaning = .ok (.integer (-n)) := by
    rw [Expr.meaning_unary rfl, applied]
    rfl
  have short : (Expr.unary op (.integer token n)).NumeralsShort := by
    obtain ⟨low, high⟩ := Integer.fits_iff.mp fits
    unfold Integer.greatest at low high
    exact Numeral.short_of_natAbs_lt (by omega)
  have flat : (Expr.unary op (.integer token n)).nesting ≤ evaluationDepth := by
    show 2 ≤ evaluationDepth
    decide
  rw [evaluate_fst_of_within (Expr.not_exceeds_of_nesting_le flat) writer fun _ => short, means]

/-! ## Display forms -/

/-- `Entered source value`: a source comes to a value, whatever the writer. -/
def Entered (source : String) (value : Value) : Prop :=
  ∀ writer, (run source writer).1 = .ok value

theorem entered_of_parse {source : String} {expr : Expr} {value : Value}
    (parsed : parse source = .ok expr)
    (evaluates : ∀ writer, (evaluate expr writer).1 = .ok value) : Entered source value := by
  intro writer
  rw [run, parsed]
  exact mapError_eq_ok.mpr (evaluates writer)

theorem entered_string {text : String} (plain : ∀ c ∈ text.toList, isQuote c = false) :
    Entered (Value.string text).display (.string text) := by
  have cut := @tokenize_text .stringLiteral text.toList plain
  have form : (Value.string text).display =
      String.ofList (Token.Kind.text .stringLiteral text.toList) := by
    rw [← String.toList_inj, String.toList_ofList]
    simp [Value.display, Token.Kind.text]
  rw [← form, String.ofList_toList] at cut
  exact entered_of_parse (parse_literal cut rfl (fun integer => by cases integer)) fun _ => rfl

theorem entered_boolean (value : Bool) :
    Entered (Value.boolean value).display (.boolean value) := by
  have cut : tokenize (Truth.write value) = [⟨.booleanLiteral, Truth.write value, 1⟩] := by
    cases value <;> decide +kernel
  refine entered_of_parse (parse_literal cut rfl (fun integer => by cases integer)) fun _ => ?_
  show Except.ok (Value.boolean (Truth.read (Truth.write value))) = _
  rw [Truth.read_write]

/-- A number is entered by its digits. -/
theorem entered_number {n : Nat} (small : (n : Int) ≤ Integer.greatest) :
    Entered (Value.integer n).display (.integer n) := by
  have cut : tokenize (Value.integer n).display = [Token.decimal n 1] := by
    rw [Value.display, Numeral.decimal_ofNat]
    exact @tokenize_text .integerLiteral (Nat.toDigits 10 n) (Token.Kind.spells_toDigits n)
  exact entered_of_parse
    (parse_literal cut (Token.literal?_decimal n 1) (Token.fits_decimal small 1)) fun _ => rfl

/-- A negative number is entered by a sign and the digits of its size. -/
theorem entered_negative {n : Nat} (positive : 0 < n) (small : (n : Int) ≤ Integer.greatest) :
    Entered (Value.integer (-n)).display (.integer (-n)) := by
  have cut : tokenize (Value.integer (-n)).display =
      [⟨.minus, "-", 1⟩, Token.decimal n 1] := by
    have form : (Value.integer (-n)).display = String.ofList ('-' :: Nat.toDigits 10 n) := by
      have negative : (-n : Int) < 0 := by omega
      rw [Value.display, Numeral.decimal, if_pos negative, Int.natAbs_neg, Int.natAbs_natCast,
        ← String.toList_inj]
      simp
    have sign := @Cursor.drain_text .minus ['-'] (Nat.toDigits 10 n) rfl (fun _ _ => rfl) 1
    have digits := @Cursor.drain_last .integerLiteral _ (Token.Kind.spells_toDigits n) 1
    rw [form]
    show (⟨(String.ofList ('-' :: Nat.toDigits 10 n)).toList, 1⟩ : Cursor).drain.1 = _
    rw [String.toList_ofList]
    exact sign.trans (congrArg _ digits)
  have fits : Integer.fits (-n) = true := by
    rw [Integer.fits_iff]
    omega
  exact entered_of_parse
    (parse_signed cut rfl (Token.literal?_decimal n 1) (Token.fits_decimal small 1))
    (evaluate_signed rfl fits)

/-- A regular value is entered by its display form, unless it is the least integer. -/
theorem Value.Regular.entered {value : Value} (regular : value.Regular)
    (other : value ≠ .integer Integer.least) : Entered value.display value := by
  cases value with
  | string text => exact entered_string regular
  | boolean value => exact entered_boolean value
  | integer n =>
    obtain ⟨above, below⟩ := Integer.fits_iff.mp regular
    obtain ⟨size, rfl | rfl⟩ := n.eq_nat_or_neg
    · exact entered_number (Int.lt_add_one_iff.mp below)
    · rcases Nat.eq_zero_or_pos size with rfl | positive
      · exact entered_number (by decide)
      · refine entered_negative positive ?_
        have apart : (size : Int) ≠ Integer.greatest + 1 := by
          intro same
          exact other (by rw [same]; rfl)
        omega

/-- The least integer has no literal of its size. -/
theorem parse_display_least : parse (Value.integer Integer.least).display =
    .error (.rejected ⟨.integerOutOfRange, ⟨.integerLiteral, "2147483648", 1⟩⟩) := by
  decide +kernel

theorem Value.Regular.display_ne_least {value : Value} (regular : value.Regular)
    (other : value ≠ .integer Integer.least) :
    value.display ≠ (Value.integer Integer.least).display := by
  intro same
  have entered := regular.entered other {}
  rw [same, run, parse_display_least] at entered
  cases entered

/-- Regular values with the same display form are the same. -/
theorem Value.Regular.eq_of_display {value other : Value} (regular : value.Regular)
    (regularOther : other.Regular) (same : value.display = other.display) : value = other := by
  by_cases least : value = .integer Integer.least
  · subst least
    by_cases alike : other = .integer Integer.least
    · exact alike.symm
    · exact absurd same.symm (regularOther.display_ne_least alike)
  · by_cases alike : other = .integer Integer.least
    · subst alike
      exact absurd same (regular.display_ne_least least)
    · have entered := regular.entered least {}
      rw [same, regularOther.entered alike {}] at entered
      exact (Except.ok.inj entered).symm

/-! ## Sources -/

/-- What a source comes to is regular. -/
theorem regular_of_run {source : String} {writer : Writer} {value : Value}
    (h : (run source writer).1 = .ok value) : value.Regular := by
  cases parsed : parse source with
  | error error =>
    rw [run, parsed] at h
    cases h
  | ok expr =>
    rw [run, parsed] at h
    have evaluated : (evaluate expr writer).1 = .ok value := mapError_eq_ok.mp h
    exact (derives_of_parse parsed).meaning_regular (tokenize_spelled source)
      (fits_of_parse parsed) (meaning_of_evaluate evaluated)

/-- Entering the display form of a value that a source came to gives that value again. Only the
least integer is not entered that way: its display form is rejected for a literal that is out of
range. So values of sources with the same display form are the same. -/
theorem run_display {source : String} {writer : Writer} {value : Value}
    (ran : (run source writer).1 = .ok value) :
    (value ≠ .integer Integer.least → ∀ other, (run value.display other).1 = .ok value) ∧
    (value = .integer Integer.least → parse value.display =
      .error (.rejected ⟨.integerOutOfRange, ⟨.integerLiteral, "2147483648", 1⟩⟩)) ∧
    ∀ source' writer' value', (run source' writer').1 = .ok value' →
      value'.display = value.display → value' = value := by
  have regular := regular_of_run ran
  refine ⟨regular.entered, ?_, ?_⟩
  · rintro rfl
    exact parse_display_least
  · intro source' writer' value' ran' same
    exact (regular_of_run ran').eq_of_display regular same

/-- A string that was not closed is entered again with its line end. A difference that is the least
integer is not. -/
theorem run_display_unclosed :
    (run "\"a\nb" {}).1 = .ok (.string "a\nb") ∧
    (run "\"a\nb\"" {}).1 = .ok (.string "a\nb") ∧
    (run "-2147483647 - 1" {}).1 = .ok (.integer Integer.least) ∧
    parse "-2147483648" =
      .error (.rejected ⟨.integerOutOfRange, ⟨.integerLiteral, "2147483648", 1⟩⟩) := by
  have unclosed : (run "\"a\nb" {}).1 = .ok (.string "a\nb") := by decide +kernel
  have difference : (run "-2147483647 - 1" {}).1 = .ok (.integer Integer.least) := by
    decide +kernel
  have closed : (Value.string "a\nb").display = "\"a\nb\"" := by decide +kernel
  have digits : (Value.integer Integer.least).display = "-2147483648" := by decide +kernel
  obtain ⟨again, -, -⟩ := run_display unclosed
  obtain ⟨-, refused, -⟩ := run_display difference
  rw [closed] at again
  rw [digits] at refused
  exact ⟨unclosed, again (by decide) {}, difference, refused rfl⟩

end Abacus
