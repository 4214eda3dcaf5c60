/-!
# Decimal numerals

Integers are written in decimal. A numeral may have at most 4300 digits, so that reading and writing
it takes a bounded time. A numeral that is read has the digits it is spelled with, leading zeros
included; one that is written has none of those.

Results:
1. `Numeral.decimal_ofNat`: a number that is not negative is written with its digits alone.
2. `Numeral.write?_of_short` and `Numeral.write?_of_not_short`: only the number of digits makes
   writing fail.
-/

namespace Abacus.Numeral

/-- An integer in decimal: a minus sign if it is negative, then the digits of its size. -/
def decimal (n : Int) : String :=
  if n < 0 then "-" ++ String.ofList (Nat.toDigits 10 n.natAbs)
  else String.ofList (Nat.toDigits 10 n.natAbs)

/-- A number that is not negative is written with its digits alone. -/
theorem decimal_ofNat (n : Nat) : decimal n = String.ofList (Nat.toDigits 10 n) := by
  have notNegative : ¬ (n : Int) < 0 := by omega
  simp [decimal, notNegative]

/-- The longest numeral that is read or written. -/
def maxDigits : Nat := 4300

/-! ## Writing -/

/-- Whether an integer has no more digits than a numeral may have. A minus sign does not count. -/
def Short (n : Int) : Prop :=
  (Nat.toDigits 10 n.natAbs).length ≤ maxDigits

instance (n : Int) : Decidable (Short n) :=
  inferInstanceAs (Decidable ((Nat.toDigits 10 n.natAbs).length ≤ maxDigits))

/-- The numeral of an integer, unless it would be too long. -/
def write? (n : Int) : Option String :=
  if Short n then some (decimal n) else none

/-- What is said of an integer that is too long to be written. -/
def overlong : String :=
  "Exceeds the limit (" ++ decimal maxDigits ++ " digits) for integer string conversion; "
    ++ "use sys.set_int_max_str_digits() to increase the limit"

/-- A number of ten digits is short. -/
theorem short_of_natAbs_lt {n : Int} (small : n.natAbs < 10000000000) : Short n := by
  have ten : (Nat.toDigits 10 n.natAbs).length ≤ 10 :=
    (Nat.length_toDigits_le_iff (by decide) (by decide)).mpr small
  exact Nat.le_trans ten (by decide)

theorem write?_of_short {n : Int} (short : Short n) : write? n = some (decimal n) := by
  rw [write?, if_pos short]

theorem write?_of_not_short {n : Int} (long : ¬Short n) : write? n = none := by
  rw [write?, if_neg long]

/-! ## Reading -/

/-- The failure to read a numeral of so many digits. -/
structure TooLong where
  digits : Nat
  deriving DecidableEq, Repr

/-- What is said of a numeral that is too long. -/
def TooLong.message (failure : TooLong) : String :=
  "Exceeds the limit (" ++ decimal maxDigits ++ " digits) for integer string conversion: value has "
    ++ decimal failure.digits ++ " digits; use sys.set_int_max_str_digits() to increase the limit"

/-- The value of a run of digits. -/
def read (digits : List Char) : Except TooLong Nat :=
  if digits.length ≤ maxDigits then .ok (Nat.ofDigitChars 10 digits 0)
  else .error ⟨digits.length⟩

end Abacus.Numeral
