import Abacus.Text.Blank
import Abacus.Token.Piece

/-!
# Tokens of a source text

A cursor stands between two characters of a source and hands out one token after another, passing
over white space. At the end of the source it hands out the same token for ever.

Results:
1. `Cursor.next?_length`: a token uses up at least one character, so taking tokens comes to an end,
   which is how `Cursor.drain` is defined.
2. `Cursor.next?_drain`: where draining stops, the end is all there is.
-/

namespace Abacus

open Text

/-- A place in a source text: what is still to be read, and the line it starts on. -/
structure Cursor where
  rest : List Char
  line : Nat := 1
  deriving DecidableEq, Repr

namespace Cursor

/-- The cursor at the start of a source text. -/
def ofSource (source : String) : Cursor :=
  ⟨source.toList, 1⟩

/-- Moves past white space. -/
def skipBlanks (cursor : Cursor) : Cursor :=
  ⟨cursor.rest.dropWhile isBlank, cursor.line + lineEnds (cursor.rest.takeWhile isBlank)⟩

/-- The token that stands for the end of the source. -/
def endToken (cursor : Cursor) : Token :=
  ⟨.endOfFile, "EOF", cursor.skipBlanks.line⟩

/-- The next token and the place after it, unless only white space is left. -/
def next? (cursor : Cursor) : Option (Token × Cursor) :=
  match cursor.skipBlanks with
  | ⟨[], _⟩ => none
  | ⟨head :: tail, line⟩ =>
    let piece := Piece.read head tail
    some (⟨piece.kind, String.ofList piece.lexeme, line⟩,
      ⟨piece.rest, line + lineEnds piece.lexeme⟩)

/-- The next token, which is the end of the source again and again once that is reached. -/
def next (cursor : Cursor) : Token × Cursor :=
  cursor.next?.getD (cursor.endToken, cursor.skipBlanks)

/-- A token uses up at least one character. -/
theorem next?_length {cursor after : Cursor} {token : Token}
    (h : cursor.next? = some (token, after)) : after.rest.length < cursor.rest.length := by
  unfold next? at h
  split at h
  · simp at h
  · rename_i head tail line skipped
    have shorter := Piece.read_length head tail
    have rest : cursor.rest.dropWhile isBlank = head :: tail := congrArg Cursor.rest skipped
    have suffix := (List.dropWhile_suffix isBlank (l := cursor.rest)).length_le
    simp only [Option.some.injEq, Prod.mk.injEq] at h
    rw [rest, List.length_cons] at suffix
    rw [← h.2]
    simp only
    omega

/-- All tokens up to the end of the source, and the place where only white space is left. -/
def drain (cursor : Cursor) : List Token × Cursor :=
  match _ : cursor.next? with
  | none => ([], cursor)
  | some (token, after) =>
    let (tokens, last) := after.drain
    (token :: tokens, last)
termination_by cursor.rest.length
decreasing_by exact next?_length ‹_›

/-- Where draining stops, the end is all there is. -/
theorem next?_drain (cursor : Cursor) : cursor.drain.2.next? = none := by
  fun_induction drain cursor with
  | case1 cursor h => exact h
  | case2 cursor token after h tokens last eq ih => simpa [eq] using ih

end Cursor

end Abacus
