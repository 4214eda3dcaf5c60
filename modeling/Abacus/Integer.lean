import Abacus.Text.Numeral

/-!
# The range of integers

Integers have 32 bits, one of them for the sign.

Results:
1. `Integer.fits_iff`: the range has as many numbers below zero as from zero on.
2. `Integer.short_of_fits`: the numbers of the range have few enough digits.
-/

namespace Abacus.Integer

/-- The least integer. -/
def least : Int := -2147483648

/-- The greatest integer. -/
def greatest : Int := 2147483647

/-- Whether a number lies within the range. -/
def fits (n : Int) : Bool :=
  least ≤ n && n ≤ greatest

/-- The range has as many numbers below zero as from zero on. -/
theorem fits_iff {n : Int} : fits n = true ↔ -(greatest + 1) ≤ n ∧ n < greatest + 1 := by
  unfold fits
  rw [Bool.and_eq_true, decide_eq_true_eq, decide_eq_true_eq]
  unfold least greatest
  omega

/-- The numbers of the range have few enough digits. -/
theorem short_of_fits {n : Int} (h : fits n = true) : Numeral.Short n := by
  refine Numeral.short_of_natAbs_lt ?_
  obtain ⟨low, high⟩ := fits_iff.mp h
  unfold greatest at low high
  omega

end Abacus.Integer
