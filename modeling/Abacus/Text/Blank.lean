/-!
# White space

The characters that separate words, and text without them at its ends.

Result: `dropWhile_isBlank_eq_nil_iff`: a text is blank throughout exactly if nothing is left of it
without the white space in front.
-/

namespace Abacus.Text

/-- White space of any script: the controls tab to carriage return and the four separators, the
next-line control, and every space, line and paragraph separator. -/
def isBlank (c : Char) : Bool :=
  let n := c.toNat
  (0x09 ≤ n && n ≤ 0x0D) || (0x1C ≤ n && n ≤ 0x20) || n == 0x85 || n == 0xA0 || n == 0x1680 ||
    (0x2000 ≤ n && n ≤ 0x200A) || n == 0x2028 || n == 0x2029 || n == 0x202F || n == 0x205F ||
    n == 0x3000

/-- Cuts the white space off both ends. -/
def strip (text : List Char) : List Char :=
  ((text.dropWhile isBlank).reverse.dropWhile isBlank).reverse

/-- What is left after dropping blanks is nothing exactly if all was blank. -/
theorem dropWhile_isBlank_eq_nil_iff {text : List Char} :
    text.dropWhile isBlank = [] ↔ ∀ c ∈ text, isBlank c = true := by
  induction text with
  | nil => simp
  | cons c rest ih => by_cases blank : isBlank c <;> simp [blank, ih]

end Abacus.Text
