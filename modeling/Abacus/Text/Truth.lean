/-!
# Truth values in text

Truth values are written as two words, in every form in which they appear.

Result: `Truth.read_write`: the word says which truth value it stands for.
-/

namespace Abacus.Truth

/-- The word for a truth value. -/
def write (value : Bool) : String :=
  if value then "true" else "false"

/-- The truth value of a word; a word that stands for none counts as false. -/
def read (word : String) : Bool :=
  word == "true"

/-- The word says which truth value it stands for. -/
@[simp] theorem read_write (value : Bool) : read (write value) = value := by
  cases value <;> decide

end Abacus.Truth
