import Abacus.Proofs.Locality

/-!
# Lines of tokens

A cursor counts the line ends of all that it passes over: those of white space, and those of string
literals, be they closed or not. So it stands on the right line wherever calls have taken it, and
each token is on the line of its first character. White space at which two texts are put together
belongs to no token of either, so the number of its lines is all that the first text leaves behind
for the second one.

Results:
1. `Cursor.exists_takes`: what a call takes from a text.
2. `Cursor.Behind.next` and `Cursor.exists_behind`: a cursor knows the line it stands on.
3. `token_lines`: the lines of the tokens that calls hand out, and of the end.
4. `tokenize_append_blanks`: texts put together at white space.
-/

namespace Abacus

open Text

/-! ## Calls -/

namespace Cursor

/-- The place that a number of calls take a cursor to, each of which hands out a token. -/
def after (cursor : Cursor) : Nat → Cursor
  | 0 => cursor
  | calls + 1 => (cursor.after calls).next.2

/-- `cursor.Takes gap text`: a call passes over white space and the text of the token that it hands
out. The end has no text, and nothing is left behind it. -/
structure Takes (cursor : Cursor) (gap text : List Char) : Prop where
  split : cursor.rest = gap ++ (text ++ cursor.next.2.rest)
  gap : ∀ c ∈ gap, isBlank c = true
  token : cursor.next.1.Spelled ∧ cursor.next.1.Occupies text cursor.next.2.rest ∨
    cursor.next.1.kind = .endOfFile ∧ text = [] ∧ cursor.next.2.rest = []

theorem next_of_some {cursor : Cursor} {step : Token × Cursor} (h : cursor.next? = some step) :
    cursor.next = step := by
  rw [next, h]
  rfl

/-- Where only white space is left, a call passes over all of it. -/
theorem next_of_none {cursor : Cursor} (h : cursor.next? = none) :
    cursor.next = (⟨.endOfFile, "EOF", (cursor.line + lineEnds cursor.rest : Nat)⟩,
      ⟨[], cursor.line + lineEnds cursor.rest⟩) := by
  obtain ⟨taken, left⟩ := @Piece.takeWhile_run _ isBlank cursor.rest [] (blank_of_next? h) (by simp)
  rw [List.append_nil] at taken left
  rw [next, h, endToken, skipBlanks, taken, left]
  rfl

/-- What a call takes from a text, and the line ends that it counts. -/
theorem exists_takes (cursor : Cursor) :
    ∃ gap text, cursor.Takes gap text ∧ cursor.next.1.line = cursor.line + lineEnds gap ∧
      cursor.next.2.line = cursor.line + lineEnds gap + lineEnds text := by
  cases found : cursor.next? with
  | none =>
    have ends := next_of_none found
    refine ⟨cursor.rest, [], ⟨?_, blank_of_next? found, .inr ?_⟩, ?_⟩
    · rw [ends]
      exact (List.append_nil _).symm
    · rw [ends]
      exact ⟨rfl, rfl, rfl⟩
    · rw [ends]
      exact ⟨Int.natCast_add _ _, rfl⟩
  | some step =>
    obtain ⟨gap, text, split, blank, occupies, lines⟩ := next?_split found
    have spelled := next?_spelled found
    obtain rfl := next_of_some found
    exact ⟨gap, text, ⟨split, blank, .inl ⟨spelled, occupies⟩⟩, lines⟩

/-- Only white space and string literals have line ends. -/
theorem Takes.lineEnds_text {cursor : Cursor} {gap text : List Char} (takes : cursor.Takes gap text)
    (other : cursor.next.1.kind ≠ .stringLiteral) : lineEnds text = 0 := by
  rcases takes.token with ⟨spelled, occupies⟩ | ⟨-, rfl, -⟩
  · rw [occupies.lineEnds_eq, lineEnds, List.count_eq_zero]
    intro mem
    cases (plain_of_spells spelled other '\n' mem).2
  · rfl

/-! ## Counting lines -/

/-- `cursor.Behind before source`: a cursor stands in a source right behind some text, on the line
that the line ends of that text lead to. -/
structure Behind (cursor : Cursor) (before source : List Char) : Prop where
  split : source = before ++ cursor.rest
  line : cursor.line = 1 + lineEnds before

theorem behind_ofSource (source : String) : (ofSource source).Behind [] source.toList :=
  ⟨rfl, rfl⟩

/-- A call takes a cursor from its line to the line behind what it passes over. -/
theorem Behind.next {cursor : Cursor} {before source : List Char}
    (behind : cursor.Behind before source) :
    ∃ gap text, cursor.Takes gap text ∧ cursor.next.2.Behind (before ++ (gap ++ text)) source ∧
      cursor.next.1.line = 1 + lineEnds (before ++ gap) := by
  obtain ⟨gap, text, takes, own, reached⟩ := cursor.exists_takes
  refine ⟨gap, text, takes, ⟨?_, ?_⟩, ?_⟩
  · rw [behind.split, takes.split, List.append_assoc, List.append_assoc]
  · rw [reached, behind.line, lineEnds_append, lineEnds_append, Nat.add_assoc, Nat.add_assoc]
  · rw [own, behind.line, lineEnds_append]
    push_cast
    exact Int.add_assoc _ _ _

/-- After any number of calls, a cursor knows the line it stands on. -/
theorem exists_behind (source : String) (calls : Nat) :
    ∃ before, ((ofSource source).after calls).Behind before source.toList := by
  induction calls with
  | zero => exact ⟨[], behind_ofSource source⟩
  | succ calls ih =>
    obtain ⟨before, behind⟩ := ih
    obtain ⟨gap, text, -, reached, -⟩ := behind.next
    exact ⟨_, reached⟩

/-- The end is on the line behind all line ends of a source. -/
theorem Behind.line_of_endOfFile {cursor : Cursor} {before source : List Char}
    (behind : cursor.Behind before source) (ends : cursor.next.1.kind = .endOfFile) :
    cursor.next.1.line = 1 + lineEnds source := by
  obtain ⟨gap, text, takes, reached, own⟩ := behind.next
  rcases takes.token with ⟨spelled, -⟩ | ⟨-, rfl, nothing⟩
  · exact absurd ends spelled.kind_ne_endOfFile
  · rw [own, reached.split, nothing, List.append_nil, List.append_nil]

/-- Taking all tokens ends somewhere in the same source. -/
theorem Behind.drain {cursor : Cursor} {before source : List Char}
    (behind : cursor.Behind before source) :
    ∃ all, cursor.drain.2.Behind all source := by
  fun_induction Cursor.drain cursor generalizing before with
  | case1 cursor => exact ⟨before, behind⟩
  | case2 cursor token after found tokens last eq ih =>
    obtain ⟨gap, text, -, reached, -⟩ := behind.next
    rw [next_of_some found] at reached
    rw [eq] at ih
    exact ih reached

/-- A token is on no line in front of the one that its call started on, and on none behind the one
that the call led to. -/
theorem next_line_within (cursor : Cursor) :
    cursor.line ≤ cursor.next.1.line ∧ cursor.next.1.line ≤ cursor.next.2.line := by
  obtain ⟨gap, text, -, own, reached⟩ := cursor.exists_takes
  rw [own, reached]
  push_cast
  exact ⟨Int.le_add_of_nonneg_right (Int.natCast_nonneg _),
    Int.le_add_of_nonneg_right (Int.natCast_nonneg _)⟩

/-- The token that a call hands out behind a number of others. -/
def handed (cursor : Cursor) (calls : Nat) : Token :=
  (cursor.after calls).next.1

/-- The lines of the tokens that calls hand out never decrease. -/
theorem handed_line_mono (cursor : Cursor) {earlier later : Nat} (le : earlier ≤ later) :
    (cursor.handed earlier).line ≤ (cursor.handed later).line := by
  induction le with
  | refl => exact Int.le_refl _
  | step _ ih =>
    refine Int.le_trans ih (Int.le_trans (next_line_within _).2 ?_)
    exact (next_line_within (cursor.after _)).1

end Cursor

/-- The token that stands for the end of a source, as its readers know it. -/
theorem sourceEnd_eq (source : String) :
    sourceEnd source = ⟨.endOfFile, "EOF", 1 + lineEnds source.toList⟩ := by
  obtain ⟨all, behind⟩ := (Cursor.behind_ofSource source).drain
  have last : (Cursor.ofSource source).drain.2.next.1 = sourceEnd source := by
    rw [Cursor.next, Cursor.next?_drain]
    rfl
  have line := behind.line_of_endOfFile (by rw [last]; rfl)
  rw [last] at line
  rw [← line]
  rfl

/-- Token lines are exact. A call passes over some white space and hands out the token behind it,
on the line that the line ends in front of that token lead to; those of the white space and of
string literals are all there are. The end is on the line behind all line ends of the source,
however often it is handed out. So lines never decrease. -/
theorem token_lines (source : String) :
    (∀ calls, ∃ before gap text,
      source.toList = before ++ ((Cursor.ofSource source).after calls).rest ∧
      ((Cursor.ofSource source).after calls).Takes gap text ∧
      ((Cursor.ofSource source).handed calls).line = 1 + lineEnds (before ++ gap) ∧
      (((Cursor.ofSource source).handed calls).kind ≠ .stringLiteral → lineEnds text = 0) ∧
      (((Cursor.ofSource source).handed calls).kind = .endOfFile →
        ((Cursor.ofSource source).handed calls).line = 1 + lineEnds source.toList)) ∧
    (sourceEnd source).line = 1 + lineEnds source.toList ∧
    ∀ earlier later, earlier ≤ later →
      ((Cursor.ofSource source).handed earlier).line ≤
        ((Cursor.ofSource source).handed later).line := by
  refine ⟨fun calls => ?_, ?_, fun earlier later => Cursor.handed_line_mono _⟩
  · obtain ⟨before, behind⟩ := Cursor.exists_behind source calls
    obtain ⟨gap, text, takes, -, own⟩ := behind.next
    exact ⟨before, gap, text, behind.split, takes, own, takes.lineEnds_text,
      behind.line_of_endOfFile⟩
  · rw [sourceEnd_eq]

/-! ## Texts put together at white space -/

/-- White space goes on with no token. -/
theorem Token.Kind.extendedBy_of_isBlank {c : Char} (blank : isBlank c = true) (kind : Kind) :
    kind.extendedBy c = false := by
  cases kind
  case integerLiteral =>
    refine Bool.eq_false_iff.mpr fun digit => ?_
    cases blank.symm.trans (isBlank_of_isDigit digit)
  case booleanLiteral | ifWord | identifier => exact isWordPart_of_isBlank blank
  case assignment | bang | greater | smaller =>
    refine beq_eq_false_iff_ne.mpr ?_
    rintro rfl
    cases blank
  all_goals rfl

/-- Where a text closes its string literals and white space follows, its tokens are its own, and
those behind the white space are the tokens of what follows, further down by the line ends in front
of them. Nothing else is left behind by what was read, so the end is further down by as many
lines. -/
theorem tokenize_append_blanks {a w b : String} (closed : endsInside false a.toList = false)
    (blanks : ∀ c ∈ w.toList, isBlank c = true) (nonempty : w ≠ "") :
    tokenize (a ++ w ++ b) =
        tokenize a ++ (tokenize b).map (Token.below (lineEnds (a ++ w).toList)) ∧
      sourceEnd (a ++ w ++ b) = (sourceEnd b).below (lineEnds (a ++ w).toList) := by
  have lines : lineEnds (a ++ w).toList = lineEnds a.toList + lineEnds w.toList := by
    rw [String.toList_append, lineEnds_append]
  constructor
  · have meets : ∀ c ∈ (w.toList ++ b.toList).head?, ∀ kind : Token.Kind,
        kind.extendedBy c = false := by
      intro c mem
      obtain ⟨head, tail, split⟩ :=
        List.exists_cons_of_ne_nil (mt String.toList_eq_nil_iff.mp nonempty)
      rw [split] at mem
      cases mem
      exact Token.Kind.extendedBy_of_isBlank (blanks c (by rw [split]; exact List.mem_cons_self))
    have further : (⟨b.toList, 1 + lineEnds (a ++ w).toList⟩ : Cursor).drain.1 =
        (tokenize b).map (Token.below (lineEnds (a ++ w).toList)) :=
      Cursor.drain_below _ ⟨b.toList, 1⟩
    have cut := Cursor.drain_append closed meets 1
    rw [Cursor.drain_blanks blanks, Nat.add_assoc, ← lines, further] at cut
    have text : (a ++ w ++ b).toList = a.toList ++ (w.toList ++ b.toList) := by simp
    show (⟨(a ++ w ++ b).toList, 1⟩ : Cursor).drain.1 = _
    rw [text]
    exact cut
  · rw [sourceEnd_eq, sourceEnd_eq, String.toList_append, lineEnds_append, Token.below]
    push_cast
    rw [Int.add_comm (lineEnds _ : Int), Int.add_assoc]

/-- What an equals sign would go on with is at the seam, and so is one, but white space keeps them
apart. A line end within a string counts as well as one in the white space. -/
theorem tokenize_append_blanks_order :
    endsInside false "1 =\n\"x\ny\"<".toList = false ∧
    tokenize "1 =\n\"x\ny\"<" =
      [⟨.integerLiteral, "1", 1⟩, ⟨.assignment, "=", 1⟩, ⟨.stringLiteral, "x\ny", 2⟩,
        ⟨.smaller, "<", 3⟩] ∧
    tokenize "=\n2" = [⟨.assignment, "=", 1⟩, ⟨.integerLiteral, "2", 2⟩] ∧
    tokenize "1 =\n\"x\ny\"<\n\u3000=\n2" =
      [⟨.integerLiteral, "1", 1⟩, ⟨.assignment, "=", 1⟩, ⟨.stringLiteral, "x\ny", 2⟩,
        ⟨.smaller, "<", 3⟩, ⟨.assignment, "=", 4⟩, ⟨.integerLiteral, "2", 5⟩] := by
  have closed : endsInside false "1 =\n\"x\ny\"<".toList = false := by decide
  have front : tokenize "1 =\n\"x\ny\"<" =
      [⟨.integerLiteral, "1", 1⟩, ⟨.assignment, "=", 1⟩, ⟨.stringLiteral, "x\ny", 2⟩,
        ⟨.smaller, "<", 3⟩] := by decide +kernel
  have behind : tokenize "=\n2" = [⟨.assignment, "=", 1⟩, ⟨.integerLiteral, "2", 2⟩] := by
    decide +kernel
  have blanks : ∀ c ∈ "\n\u3000".toList, isBlank c = true :=
    List.all_eq_true.mp (by decide +kernel)
  have whole := @tokenize_append_blanks "1 =\n\"x\ny\"<" "\n\u3000" "=\n2" closed blanks
    (by decide)
  have text : "1 =\n\"x\ny\"<" ++ "\n\u3000" ++ "=\n2" = "1 =\n\"x\ny\"<\n\u3000=\n2" := by
    decide
  rw [text, front, behind] at whole
  exact ⟨closed, front, behind, whole.1⟩

end Abacus
