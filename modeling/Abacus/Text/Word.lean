import Abacus.Text.Letter
import Abacus.Text.Numeric

/-!
# Words, quotes and lines

The characters that words are made of, the mark around string literals, and the count of line ends.

Results:
1. `isWordPart_of_isWordStart`: what starts a word may also stand within one.
2. `lineEnds_append`: line ends are counted part by part.
-/

namespace Abacus.Text

/-- Words start with a letter of any script or an underscore. -/
def isWordStart (c : Char) : Bool :=
  isLetter c || c == '_'

/-- Words go on with letters, numeric characters and underscores. -/
def isWordPart (c : Char) : Bool :=
  isLetter c || isNumeric c || c == '_'

/-- The mark at both ends of a string literal. -/
def isQuote (c : Char) : Bool :=
  c == '"'

/-- The number of line ends in a text. -/
def lineEnds (text : List Char) : Nat :=
  text.count '\n'

/-- What starts a word may also stand within one. -/
theorem isWordPart_of_isWordStart {c : Char} (h : isWordStart c = true) : isWordPart c = true := by
  unfold isWordStart at h
  unfold isWordPart
  rcases (Bool.or_eq_true _ _).mp h with letter | underscore
  · simp [letter]
  · simp [underscore]

/-- Line ends are counted part by part. -/
theorem lineEnds_append (first second : List Char) :
    lineEnds (first ++ second) = lineEnds first + lineEnds second :=
  List.count_append

end Abacus.Text
