import Mathlib.Tactic.SplitIfs
import Abacus.Proofs.Congruence
import Abacus.Proofs.Exactness

/-!
# Division

The quotient of two integers drops the fraction. It leaves a remainder that is smaller than the
divisor and does not lie on the other side of zero from the dividend, and it is the only number that
does. In range, a quotient fails to exist for one divisor and to be in range for one dividend: there
is one more number below zero than above.

Results:
1. `Integer.isQuotient_iff`: it is the only number that leaves such a remainder.
2. `Integer.fits_tdiv_iff`: when it is in range.
3. `Divides.evaluate_fst`: what a division is evaluated to, and `divides_literals`: which divisions
   there are at least.
4. `evaluate_quotient`: its failures, its values, and operands with the other sign.
-/

namespace Abacus

/-! ## Quotients -/

namespace Integer

variable {a b q : Int}

/-- A number is a quotient if the remainder it leaves is smaller than the divisor, and is zero or
has the sign of the dividend. -/
def IsQuotient (a b q : Int) : Prop :=
  ∃ r, a = q * b + r ∧ r.natAbs < b.natAbs ∧ (r = 0 ∨ r.sign = a.sign)

/-- The number that drops the fraction is a quotient, and there is no other one. -/
theorem isQuotient_iff (divides : b ≠ 0) : IsQuotient a b q ↔ q = a.tdiv b := by
  constructor
  · rintro ⟨r, split, small, side⟩
    have sum : r + b * q = a := by rw [split, Int.mul_comm, Int.add_comm]
    rcases Int.le_total 0 a with above | below
    · have nonneg : 0 ≤ r := by
        rcases side with rfl | same
        · exact Int.le_refl 0
        · exact Int.sign_nonneg_iff.mp (same ▸ Int.sign_nonneg_iff.mpr above)
      exact ((Int.tdiv_tmod_unique above divides).mpr ⟨sum, nonneg, by omega⟩).1.symm
    · have nonpos : r ≤ 0 := by
        rcases side with rfl | same
        · exact Int.le_refl 0
        · exact Int.sign_nonpos_iff.mp (same ▸ Int.sign_nonpos_iff.mpr below)
      exact ((Int.tdiv_tmod_unique' below divides).mpr ⟨sum, by omega, nonpos⟩).1.symm
  · rintro rfl
    refine ⟨a.tmod b, ?_, ?_, ?_⟩
    · rw [Int.mul_comm, Int.add_comm, Int.tmod_add_mul_tdiv]
    · rw [Int.natAbs_tmod]
      exact Nat.mod_lt _ (Int.natAbs_pos.mpr divides)
    · rw [Int.sign_tmod]
      by_cases whole : b ∣ a
      · exact .inl (Int.tmod_eq_zero_of_dvd whole)
      · exact .inr (if_neg whole)

/-- In range, only the least integer has a quotient out of range, and only by minus one. -/
theorem fits_tdiv_iff (dividend : fits a = true) (divides : b ≠ 0) :
    fits (a.tdiv b) = true ↔ ¬ (a = least ∧ b = -1) := by
  rw [fits_iff] at *
  unfold least greatest at *
  have size := Int.natAbs_tdiv a b
  change _ = a.natAbs / b.natAbs at size
  constructor
  · rintro ⟨-, above⟩ ⟨rfl, rfl⟩
    rw [Int.tdiv_neg, Int.tdiv_one] at above
    omega
  · intro other
    -- Dividing by one keeps the size, and dividing by anything else at least halves it.
    by_cases one : b.natAbs = 1
    · rcases Int.natAbs_eq_iff.mp one with rfl | rfl
      · rw [Int.natCast_one, Int.tdiv_one]
        exact dividend
      · rw [Int.natCast_one, Int.tdiv_neg, Int.tdiv_one]
        omega
    · have half : a.natAbs / b.natAbs ≤ a.natAbs / 2 :=
        Nat.div_le_div_left (by omega) (by decide)
      omega

end Integer

/-! ## Divisions in a tree -/

/-- What a division operator comes to. A quotient that does not exist or is out of range is an error
at the operator. -/
theorem Token.applyBinary_slash {token : Token} {a b : Int} (slash : token.kind = .slash)
    (dividend : Integer.fits a = true) :
    token.applyBinary (.integer a) (.integer b) =
      if b = 0 then .error ⟨.divisionByZero, token⟩
      else if a = Integer.least ∧ b = -1 then .error ⟨.overflow, token⟩
      else .ok (.integer (a.tdiv b)) := by
  have applied : token.applyBinary (.integer a) (.integer b) =
      (Arithmetic.divide.apply a b).mapError (⟨·, token⟩) := by
    rw [applyBinary, slash]
    rfl
  rw [applied, Arithmetic.apply, checked, Arithmetic.exact, Integer.quotient_eq_tdiv]
  by_cases zero : b = 0
  · rw [if_pos ⟨rfl, zero⟩, if_pos zero]
    rfl
  · rw [if_neg (fun both => zero both.2), if_neg zero]
    by_cases least : a = Integer.least ∧ b = -1
    · rw [if_neg (fun fits => (Integer.fits_tdiv_iff dividend zero).mp fits least), if_pos least]
      rfl
    · rw [if_pos ((Integer.fits_tdiv_iff dividend zero).mpr least), if_neg least]
      rfl

/-- `Divides writer token a b node`: a node divides what its operands are evaluated to, which are
integers in range, and its evaluation stays within the limits. -/
inductive Divides (writer : Writer) (token : Token) (a b : Int) : Expr → Prop
  | intro {left right : Expr} :
      token.kind = .slash →
      (evaluate left writer).1 = .ok (.integer a) → Integer.fits a = true →
      (evaluate right writer).1 = .ok (.integer b) → Integer.fits b = true →
      (Expr.binary token left right).WithinLimits writer →
      Divides writer token a b (.binary token left right)

section
variable {writer : Writer} {token : Token} {a b q : Int} {node : Expr}

/-- What a division is evaluated to. -/
theorem Divides.evaluate_fst (divides : Divides writer token a b node) :
    (evaluate node writer).1 =
      if b = 0 then .error (.failed ⟨.divisionByZero, token⟩)
      else if a = Integer.least ∧ b = -1 then .error (.failed ⟨.overflow, token⟩)
      else .ok (.integer (a.tdiv b)) := by
  obtain ⟨slash, first, dividend, second, -, within⟩ := divides
  rw [within.evaluate_fst,
    Expr.meaning_binary (meaning_of_evaluate first) (meaning_of_evaluate second),
    Token.applyBinary_slash slash dividend]
  split_ifs <;> rfl

theorem Divides.fits (divides : Divides writer token a b node) : Integer.fits a = true := by
  obtain ⟨-, -, dividend, -⟩ := divides
  exact dividend

/-- A division has a value exactly if its quotient exists and is in range. -/
theorem Divides.evaluate_eq_ok_iff (divides : Divides writer token a b node) :
    (evaluate node writer).1 = .ok (.integer q) ↔
      b ≠ 0 ∧ ¬ (a = Integer.least ∧ b = -1) ∧ q = a.tdiv b := by
  rw [divides.evaluate_fst]
  split_ifs with zero least
  · exact ⟨nofun, fun other => absurd zero other.1⟩
  · exact ⟨nofun, fun other => absurd least other.2.1⟩
  · exact ⟨fun same => by cases same; exact ⟨zero, least, rfl⟩, fun other => by rw [other.2.2]⟩

/-- The literals of two integers in range can always be divided. -/
theorem divides_literals (slash : token.kind = .slash) (first second : Token)
    (dividend : Integer.fits a = true) (divisor : Integer.fits b = true) (writer : Writer) :
    Divides writer token a b (.binary token (.integer first a) (.integer second b)) := by
  have flat : (Expr.binary token (.integer first a) (.integer second b)).nesting ≤
      evaluationDepth := by
    show 3 ≤ evaluationDepth
    decide
  have literal (own : Token) (n : Int) :
      (evaluate (.integer own n) writer).1 = .ok (.integer n) := rfl
  have short : writer.debugging = true →
      (Expr.binary token (.integer first a) (.integer second b)).NumeralsShort :=
    fun _ => ⟨Integer.short_of_fits dividend, Integer.short_of_fits divisor⟩
  exact .intro slash (literal first a) dividend (literal second b) divisor
    ⟨shallow_of_within (Expr.not_exceeds_of_nesting_le flat) writer, short⟩

end

/-- `Complains outcome token problem`: an evaluation failed at a token, and the problem is told. -/
def Complains (outcome : Except EvalFailure Value) (token : Token) (problem : String) : Prop :=
  ∃ error, outcome = .error (.failed error) ∧ error.token = token ∧
    error.message = token.report problem

theorem complains_failed_iff {cause : EvalError.Cause} {token : Token} {problem : String} :
    Complains (.error (.failed ⟨cause, token⟩)) token problem ↔
      cause.problem token.lexeme = problem := by
  constructor
  · rintro ⟨error, ⟨⟩, -, same⟩
    exact (String.append_right_inj _).mp same
  · rintro rfl
    exact ⟨_, rfl, rfl, rfl⟩

theorem not_complains_ok {value : Value} {token : Token} {problem : String} :
    ¬ Complains (.ok value) token problem := by
  rintro ⟨error, failed, -⟩
  cases failed

/-- An overflow is not told in the words of a division by zero. -/
theorem overflow_problem_ne {spelling : String} :
    EvalError.Cause.overflow.problem spelling ≠ "Division by zero" := by
  intro same
  have zero : EvalError.Cause.divisionByZero.problem spelling =
      EvalError.Cause.overflow.problem spelling := same.symm
  cases EvalError.Cause.eq_overflow_of_problem zero

/-- The division of two integers in range. It is told to be by zero exactly if the divisor is zero,
and to overflow exactly if it is that of the least integer by minus one. Otherwise it has a value,
the only quotient there is: its remainder is smaller than the divisor, and it is zero or has the
sign of the dividend. Where one of the operands has the other sign, the value has it too, unless
that is the one division that overflows. -/
theorem evaluate_quotient {writer : Writer} {token : Token} {a b : Int} {node : Expr}
    (divides : Divides writer token a b node) :
    (Complains (evaluate node writer).1 token "Division by zero" ↔ b = 0) ∧
    (Complains (evaluate node writer).1 token
        ("Integer overflow, result of '" ++ token.lexeme ++ "' does not fit in 32 bits") ↔
      a = Integer.least ∧ b = -1) ∧
    (b ≠ 0 → ¬ (a = Integer.least ∧ b = -1) →
      ∃ q, (evaluate node writer).1 = .ok (.integer q) ∧ Integer.IsQuotient a b q ∧
        ∀ other, Integer.IsQuotient a b other → other = q) ∧
    (∀ {otherWriter otherToken other q}, (evaluate node writer).1 = .ok (.integer q) →
      (Divides otherWriter otherToken (-a) b other →
        (evaluate other otherWriter).1 = .ok (.integer (-q))) ∧
      (Divides otherWriter otherToken a (-b) other → ¬ (a = Integer.least ∧ b = 1) →
        (evaluate other otherWriter).1 = .ok (.integer (-q)))) := by
  refine ⟨?_, ?_, ?_, ?_⟩
  · rw [divides.evaluate_fst]
    split_ifs with zero least
    · exact iff_of_true (complains_failed_iff.mpr rfl) zero
    · exact iff_of_false (fun told => overflow_problem_ne (complains_failed_iff.mp told)) zero
    · exact iff_of_false not_complains_ok zero
  · rw [divides.evaluate_fst]
    split_ifs with zero least
    · refine iff_of_false (fun told => ?_) fun least => by omega
      exact overflow_problem_ne (complains_failed_iff.mp told).symm
    · exact iff_of_true (complains_failed_iff.mpr rfl) least
    · exact iff_of_false not_complains_ok least
  · intro zero least
    exact ⟨a.tdiv b, divides.evaluate_eq_ok_iff.mpr ⟨zero, least, rfl⟩,
      (Integer.isQuotient_iff zero).mpr rfl, fun other => (Integer.isQuotient_iff zero).mp⟩
  · intro otherWriter otherToken other q evaluated
    obtain ⟨zero, least, rfl⟩ := divides.evaluate_eq_ok_iff.mp evaluated
    refine ⟨fun flipped => ?_, fun flipped noFlip => ?_⟩
    · have inRange := Integer.fits_iff.mp divides.fits
      refine flipped.evaluate_eq_ok_iff.mpr ⟨zero, fun both => ?_, (Int.neg_tdiv a b).symm⟩
      unfold Integer.least Integer.greatest at *
      omega
    · exact flipped.evaluate_eq_ok_iff.mpr ⟨by omega,
        fun both => noFlip ⟨both.1, by omega⟩, (Int.tdiv_neg a b).symm⟩

/-- Minus seven by two is minus three and leaves minus one, and seven by two is three. The least
integer by minus one overflows. -/
theorem evaluate_quotient_negative :
    ∃ (slash own : Token) (quotient : Int → Int → Except EvalFailure Value),
      slash = ⟨.slash, "/", 1⟩ ∧
      (∀ a b, quotient a b =
        (evaluate (.binary slash (.integer own a) (.integer own b)) {}).1) ∧
      quotient (-7) 2 = .ok (.integer (-3)) ∧ quotient 7 2 = .ok (.integer 3) ∧
      Complains (quotient Integer.least (-1)) slash
        "Integer overflow, result of '/' does not fit in 32 bits" := by
  have slash : (⟨.slash, "/", 1⟩ : Token).kind = .slash := rfl
  have divides {a b : Int} (dividend : Integer.fits a = true) (divisor : Integer.fits b = true) :=
    divides_literals slash ⟨.integerLiteral, "7", 1⟩ ⟨.integerLiteral, "7", 1⟩ dividend divisor {}
  obtain ⟨-, -, value, flips⟩ :=
    evaluate_quotient (divides (a := -7) (b := 2) (by decide) (by decide))
  obtain ⟨-, least, -⟩ :=
    evaluate_quotient (divides (a := Integer.least) (b := -1) (by decide) (by decide))
  obtain ⟨q, evaluated, -, only⟩ := value (by decide) (by decide)
  obtain rfl : -3 = q := only _ ⟨-1, by decide, by decide, by decide⟩
  have flipped := (flips evaluated).1 (divides (by decide) (by decide))
  rw [Int.neg_neg, Int.neg_neg] at flipped
  exact ⟨_, _, _, rfl, fun _ _ => rfl, evaluated, flipped, least.mpr ⟨rfl, rfl⟩⟩

end Abacus
