import Abacus.Grammar.Reference
import Abacus.Grammar.Scan
import Abacus.Proofs.Spelling

/-!
# Lexemes of the grammar are tokens

The grammar finds its lexemes with an eye on what may follow, the tokens of a source are found
without. Where the grammar reads a source to its end, both are the same: each lexeme is the text of
a token, and what the grammar admits behind it would not go on with that token.

Results:
1. `Terminal.first?_spells`: the text of a terminal is the text of a token of its kind.
2. `extendedBy_of_scan`: where scanning goes on to the end, the next character is of another token.
3. `drain_of_scan`: a source that is scanned to its end has the lexemes of the grammar as tokens.
-/

namespace Abacus.Grammar

open Text

/-! ## Texts of terminals -/

/-- What a pattern matches. -/
def Pattern.Matched : Pattern → List Char → List Char → Prop
  | .exact head tail, text, _ => text = head :: tail
  | .digits, text, rest =>
    text ≠ [] ∧ (∀ c ∈ text, c.isDigit = true) ∧ ∀ c ∈ rest.head?, c.isDigit = false
  | .quoted, text, _ => ∃ inside, text = '"' :: (inside ++ ['"']) ∧ ∀ c ∈ inside, isQuote c = false

theorem Pattern.matched {pattern : Pattern} {input text rest : List Char}
    (h : pattern.match? input = some (text, rest)) : pattern.Matched text rest := by
  unfold match? at h
  split at h
  · split at h
    · cases h
      rfl
    · cases h
  · split at h
    · cases h
    · rename_i input nonempty
      cases h
      exact ⟨nonempty, fun c mem => List.mem_takeWhile_imp mem, Piece.head_dropWhile _ _⟩
  · rename_i input
    split at h
    · cases h
    · rename_i quote rest found
      cases h
      refine ⟨input.takeWhile (· != '"'), ?_, ?_⟩
      · have closing := Piece.head_dropWhile (· != '"') input quote (by rw [found]; rfl)
        obtain rfl : quote = '"' := by simpa using closing
        rfl
      · intro c mem
        have other := List.mem_takeWhile_imp mem
        simpa [isQuote] using other
  · cases h

/-- The patterns of the terminals are those of the texts of their kinds. -/
theorem Terminal.mem_all_cases {terminal : Terminal} (mem : terminal ∈ Terminal.all) :
    (∃ head tail, terminal.pattern = .exact head tail ∧ terminal.kind.Spells (head :: tail) ∧
      terminal.kind.text (head :: tail) = head :: tail ∧ terminal.kind ≠ .integerLiteral) ∨
    (terminal.pattern = .digits ∧ terminal.kind = .integerLiteral) ∨
    (terminal.pattern = .quoted ∧ terminal.kind = .stringLiteral) := by
  simp only [Terminal.all, List.mem_cons, List.not_mem_nil, or_false] at mem
  rcases mem with rfl | rfl | rfl | rfl | rfl | rfl | rfl | rfl | rfl | rfl | rfl | rfl | rfl | rfl |
    rfl | rfl | rfl
  all_goals
    first
    | exact .inl ⟨_, _, rfl, rfl, rfl, by decide⟩
    | exact .inl ⟨_, _, rfl, Piece.spells_truth (.inl rfl), rfl, by decide⟩
    | exact .inl ⟨_, _, rfl, Piece.spells_truth (.inr rfl), rfl, by decide⟩
    | exact .inr (.inl ⟨rfl, rfl⟩)
    | exact .inr (.inr ⟨rfl, rfl⟩)

/-- What was found by the first terminal that fits. -/
theorem Terminal.first?_matched {terminals : List Terminal} {input text rest : List Char}
    {kind : Token.Kind} (h : Terminal.first? terminals input = some (kind, text, rest)) :
    ∃ terminal ∈ terminals, terminal.kind = kind ∧ terminal.pattern.Matched text rest ∧
      text ++ rest = input := by
  obtain ⟨terminal, mem, found⟩ := List.exists_of_findSome?_eq_some h
  obtain ⟨⟨matched, after⟩, fits, eq⟩ := Option.map_eq_some_iff.mp found
  cases eq
  exact ⟨terminal, mem, rfl, Pattern.matched fits, Pattern.match?_append fits⟩

/-- The text of a terminal is the text of a token of its kind. A number ends where the digits do. -/
theorem Terminal.first?_spells {expected : Expected} {input text rest : List Char}
    {kind : Token.Kind}
    (h : Terminal.first? expected.terminals input = some (kind, text, rest)) :
    ∃ lexeme, text = kind.text lexeme ∧ kind.Spells lexeme ∧ expected.admits kind = true ∧
      text ++ rest = input ∧
      (kind = .integerLiteral → ∀ c ∈ rest.head?, c.isDigit = false) := by
  obtain ⟨terminal, mem, rfl, matched, whole⟩ := first?_matched h
  obtain ⟨known, admits⟩ := List.mem_filter.mp mem
  rcases mem_all_cases known with ⟨head, tail, pattern, spells, same, other⟩ |
    ⟨pattern, kind⟩ | ⟨pattern, kind⟩
  · rw [pattern] at matched
    refine ⟨head :: tail, ?_, spells, admits, whole, fun integer => absurd integer other⟩
    rw [same]
    exact matched
  · rw [pattern] at matched
    obtain ⟨nonempty, digits, stops⟩ := matched
    rw [kind] at admits ⊢
    exact ⟨text, rfl, ⟨nonempty, digits⟩, admits, whole, fun _ => stops⟩
  · rw [pattern] at matched
    obtain ⟨inside, same, content⟩ := matched
    rw [kind] at admits ⊢
    exact ⟨inside, same, content, admits, whole, fun integer => by cases integer⟩

/-! ## Scanning to the end -/

theorem isBlank_of_isSpace {c : Char} (space : isSpace c = true) : isBlank c = true := by
  simp only [isSpace, Bool.or_eq_true, beq_iff_eq] at space
  rcases space with (((rfl | rfl) | rfl) | rfl) | rfl <;> decide

theorem isSpace_of_isBlank {c : Char} (solid : isBlank c = false) : isSpace c = false := by
  cases space : isSpace c with
  | false => rfl
  | true => cases solid.symm.trans (isBlank_of_isSpace space)

/-- A scan to the end finds white space up to the end, or white space, a lexeme and a scan to the
end from behind it. -/
theorem scan_finished {expected : Expected} {place : Place} {input : List Char}
    {lexemes : List Lexeme} (h : scan expected place input = (lexemes, .finished)) :
    (lexemes = [] ∧ ∀ c ∈ input, isSpace c = true) ∨
    ∃ blanks kind text rest later, input = blanks ++ (text ++ rest) ∧
      (∀ c ∈ blanks, isSpace c = true) ∧
      Terminal.first? expected.terminals (text ++ rest) = some (kind, text, rest) ∧
      lexemes = ⟨kind, String.ofList text, place.advance blanks⟩ :: later ∧
      scan (.following kind) ((place.advance blanks).advance text) rest = (later, .finished) := by
  have parts := List.takeWhile_append_dropWhile (p := isSpace) (l := input)
  have spaces : ∀ c ∈ input.takeWhile isSpace, isSpace c = true :=
    fun c mem => List.mem_takeWhile_imp mem
  rw [scan] at h
  split at h
  · rename_i done
    cases h
    rw [done, List.append_nil] at parts
    rw [parts] at spaces
    exact .inl ⟨rfl, spaces⟩
  · rename_i c tail left
    rw [left] at parts
    split at h
    · rename_i kind text rest found
      obtain ⟨lexeme, -, -, -, whole, -⟩ := Terminal.first?_spells found
      rw [← whole] at parts found
      cases later : scan (.following kind)
          ((place.advance (input.takeWhile isSpace)).advance text) rest with
      | mk others ending =>
        rw [later] at h
        cases h
        exact .inr ⟨_, kind, text, rest, others, parts.symm, spaces, found, rfl, later⟩
    · split at h <;> cases h

/-- The first character of what is scanned to the end is white space or starts the text of a kind
that may stand there. -/
theorem head_of_scan {expected : Expected} {place : Place} {rest : List Char}
    {lexemes : List Lexeme} (h : scan expected place rest = (lexemes, .finished)) :
    ∀ c ∈ rest.head?, isSpace c = true ∨ ∃ kind lexeme tail, expected.admits kind = true ∧
      kind.Spells lexeme ∧ kind.text lexeme = c :: tail := by
  intro c mem
  rcases scan_finished h with ⟨-, spaces⟩ | ⟨blanks, kind, text, behind, -, rfl, spaces, found, -, -⟩
  · exact .inl (spaces c (List.mem_of_mem_head? mem))
  · cases blanks with
    | cons blank blanks =>
      cases mem
      exact .inl (spaces c List.mem_cons_self)
    | nil =>
      obtain ⟨lexeme, rfl, spells, admits, -, -⟩ := Terminal.first?_spells found
      obtain ⟨head, tail, starts⟩ : ∃ head tail, kind.text lexeme = head :: tail :=
        List.exists_cons_of_ne_nil (Token.Kind.text_ne_nil spells)
      rw [starts] at mem
      cases mem
      exact .inr ⟨kind, lexeme, tail, admits, spells, starts⟩

/-- Behind an operand there are only symbols. -/
theorem symbol_of_admits {kind : Token.Kind} {lexeme tail : List Char} {c : Char}
    (admits : Expected.operator.admits kind = true) (spells : kind.Spells lexeme)
    (text : kind.text lexeme = c :: tail) : c ∈ symbols := by
  cases kind <;> cases admits <;> cases spells <;> cases text <;> decide

/-- Where an operator is expected and scanning goes on to the end, no word goes on. -/
theorem isWordPart_of_scan {place : Place} {rest : List Char} {lexemes : List Lexeme}
    (h : scan .operator place rest = (lexemes, .finished)) :
    ∀ c ∈ rest.head?, isWordPart c = false := by
  intro c mem
  rcases head_of_scan h c mem with space | ⟨kind, lexeme, tail, admits, spells, text⟩
  · exact isWordPart_of_isBlank (isBlank_of_isSpace space)
  · exact (symbols_apart (symbol_of_admits admits spells text)).2.2.2.1

/-- Where an operand is expected and scanning goes on to the end, no operator goes on. -/
theorem ne_equals_of_scan {place : Place} {rest : List Char} {lexemes : List Lexeme}
    (h : scan .operand place rest = (lexemes, .finished)) : ∀ c ∈ rest.head?, c ≠ '=' := by
  intro c mem
  rcases head_of_scan h c mem with space | ⟨kind, lexeme, tail, admits, spells, text⟩
  · rintro rfl
    cases space
  · have other : kind ≠ .assignment ∧ kind ≠ .equals := by
      constructor <;> rintro rfl <;> cases admits
    obtain ⟨head, rest, starts, noEquals⟩ := startsOperand_text spells other
    cases text.symm.trans starts
    exact noEquals

/-- The longer of two operators is found where both fit. -/
theorem ne_equals_of_first? {expected : Expected} {text rest : List Char} {kind : Token.Kind}
    (ordered : kind = .greater ∨ kind = .smaller)
    (found : Terminal.first? expected.terminals (text ++ rest) = some (kind, text, rest)) :
    ∀ c ∈ rest.head?, c ≠ '=' := by
  obtain ⟨lexeme, same, spells, admits, -, -⟩ := Terminal.first?_spells found
  rintro c mem rfl
  obtain ⟨tail, rfl⟩ : ∃ tail, rest = '=' :: tail := by
    cases rest with
    | nil => cases mem
    | cons head tail =>
      cases mem
      exact ⟨tail, rfl⟩
  cases expected with
  | operand => rcases ordered with rfl | rfl <;> cases admits
  | operator => rcases ordered with rfl | rfl <;> cases spells <;> cases same <;> cases found

/-- Where scanning goes on to the end, the next character is not part of the same token. -/
theorem extendedBy_of_scan {expected : Expected} {place : Place} {text rest : List Char}
    {kind : Token.Kind} {lexemes : List Lexeme}
    (found : Terminal.first? expected.terminals (text ++ rest) = some (kind, text, rest))
    (later : scan (.following kind) place rest = (lexemes, .finished)) :
    ∀ c ∈ rest.head?, kind.extendedBy c = false := by
  obtain ⟨lexeme, same, spells, admits, -, digits⟩ := Terminal.first?_spells found
  -- Few kinds can be gone on with: numbers end with their digits, words and negations because of
  -- what is expected next, and of two orders the longer one would have been found.
  intro c mem
  cases kind
  case integerLiteral => exact digits rfl c mem
  case booleanLiteral => exact isWordPart_of_scan later c mem
  case bang => exact beq_eq_false_iff_ne.mpr (ne_equals_of_scan later c mem)
  case greater => exact beq_eq_false_iff_ne.mpr (ne_equals_of_first? (.inl rfl) found c mem)
  case smaller => exact beq_eq_false_iff_ne.mpr (ne_equals_of_first? (.inr rfl) found c mem)
  all_goals first | rfl | (cases expected <;> cases admits)

/-! ## Tokens -/

/-- The token that a lexeme is read as. -/
def Lexeme.toToken (lexeme : Lexeme) : Token :=
  if lexeme.kind = .stringLiteral then lexeme.stringToken else lexeme.token

theorem Place.advance_line (place : Place) (text : List Char) :
    (place.advance text).line = place.line + lineEnds text := by
  induction text generalizing place with
  | nil => rfl
  | cons c rest ih =>
    have later := ih (place.step c)
    rw [show lineEnds (c :: rest) = lineEnds [c] + lineEnds rest from lineEnds_append [c] rest]
    have step : (place.step c).line = place.line + lineEnds [c] := by
      by_cases ends : c = '\n'
      · subst ends
        rfl
      · simp [Place.step, lineEnds, ends]
    rw [step, Nat.add_assoc] at later
    exact later

/-- A lexeme of the grammar is the token with its text, the quotes of a string left out. -/
theorem toToken_text (kind : Token.Kind) (lexeme : List Char) (place : Place) :
    (⟨kind, String.ofList (kind.text lexeme), place⟩ : Lexeme).toToken =
      ⟨kind, String.ofList lexeme, place.line⟩ := by
  cases kind
  case stringLiteral =>
    simp [Lexeme.toToken, Lexeme.stringToken, Lexeme.token, Token.Kind.text]
  all_goals rfl

/-- A source that is scanned to its end has the lexemes of the grammar as tokens. -/
theorem drain_of_scan {expected : Expected} {place : Place} {input : List Char}
    {lexemes : List Lexeme} (h : scan expected place input = (lexemes, .finished)) :
    (⟨input, place.line⟩ : Cursor).drain.1 = lexemes.map Lexeme.toToken := by
  rcases scan_finished h with ⟨rfl, spaces⟩ |
    ⟨blanks, kind, text, rest, later, split, spaces, found, rfl, scanned⟩
  · have blank := Cursor.drain_blanks (fun c mem => isBlank_of_isSpace (spaces c mem)) [] place.line
    rw [List.append_nil] at blank
    rw [blank, Cursor.drain_of_none rfl]
    rfl
  · have stops := extendedBy_of_scan found scanned
    have ih := drain_of_scan scanned
    obtain ⟨lexeme, rfl, spells, -, -, -⟩ := Terminal.first?_spells found
    rw [split, Cursor.drain_blanks fun c mem => isBlank_of_isSpace (spaces c mem),
      Cursor.drain_text spells stops, List.map_cons, toToken_text, ← ih,
      Place.advance_line (place.advance blanks), Token.Kind.lineEnds_text, Place.advance_line]
termination_by input.length
decreasing_by
  have shorter := Terminal.first?_length found
  rw [split, List.length_append]
  exact Nat.lt_of_lt_of_le shorter (Nat.le_add_left _ _)

end Abacus.Grammar
