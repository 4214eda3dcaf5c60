import Abacus.Token.Stream
import Mathlib.Data.List.TakeWhile

/-!
# Texts of tokens

What the lexeme of a token looks like by its kind, which characters would go on a token, and what
the source text of a token is. A token is read back from its text wherever the character after it
does not go on.

Results:
1. `Piece.read_spells` and `tokenize_spells`: the lexeme of a token fits its kind.
2. `Piece.read_text`: a token is read off the front of its text and of whatever does not extend it.
3. `Cursor.drain_text` and `Cursor.drain_blank`: so texts of tokens with white space between them
   are cut where they were put together.
-/

namespace Abacus

open Text

/-! ## Characters -/

/-- The characters of operators and punctuation. -/
def symbols : List Char :=
  ['-', '+', '*', '/', '(', ')', '\x7b', '\x7d', ';', '=', '!', '<', '>']

/-- Operators and punctuation are no part of anything else. -/
theorem symbols_apart {c : Char} (symbol : c ∈ symbols) :
    isBlank c = false ∧ c.isDigit = false ∧ isWordStart c = false ∧ isWordPart c = false ∧
      isQuote c = false := by
  have apart : symbols.all (fun c => !isBlank c && !c.isDigit && !isWordStart c && !isWordPart c &&
      !isQuote c) = true := by decide
  have own := List.all_eq_true.mp apart c symbol
  simp only [Bool.and_eq_true, Bool.not_eq_true'] at own
  obtain ⟨⟨⟨⟨blank, digit⟩, start⟩, part⟩, quote⟩ := own
  exact ⟨blank, digit, start, part, quote⟩

/-- The code points of white space. -/
def blankCodes : List Nat :=
  [0x09, 0x0A, 0x0B, 0x0C, 0x0D, 0x1C, 0x1D, 0x1E, 0x1F, 0x20, 0x85, 0xA0, 0x1680, 0x2000, 0x2001,
    0x2002, 0x2003, 0x2004, 0x2005, 0x2006, 0x2007, 0x2008, 0x2009, 0x200A, 0x2028, 0x2029, 0x202F,
    0x205F, 0x3000]

theorem mem_blankCodes {c : Char} (blank : isBlank c = true) : c.toNat ∈ blankCodes := by
  simp only [isBlank, Bool.or_eq_true, Bool.and_eq_true, decide_eq_true_eq, beq_iff_eq] at blank
  simp only [blankCodes, List.mem_cons, List.not_mem_nil, or_false]
  omega

theorem blankCodes_apart : ∀ n ∈ blankCodes,
    letters.containsCode n = false ∧ numerics.containsCode n = false := by
  decide +kernel

/-- White space neither starts a word nor goes on with one. -/
theorem isWordPart_of_isBlank {c : Char} (blank : isBlank c = true) : isWordPart c = false := by
  have code := mem_blankCodes blank
  obtain ⟨letter, numeric⟩ := blankCodes_apart c.toNat code
  have underscore : (c == '_') = false := by
    rw [beq_eq_false_iff_ne]
    rintro rfl
    revert code
    decide
  unfold isWordPart isLetter isNumeric CodeSet.contains
  rw [letter, numeric, underscore]
  rfl

theorem isBlank_of_isWordPart {c : Char} (part : isWordPart c = true) : isBlank c = false := by
  cases blank : isBlank c with
  | false => rfl
  | true => cases (isWordPart_of_isBlank blank).symm.trans part

theorem isDigit_of_isWordStart {c : Char} (start : isWordStart c = true) : c.isDigit = false := by
  cases digit : c.isDigit with
  | false => rfl
  | true =>
    have bounds : 48 ≤ c.toNat ∧ c.toNat ≤ 57 := by
      simp [Char.isDigit, UInt32.le_iff_toNat_le] at digit
      exact digit
    rcases (Bool.or_eq_true _ _).mp start with letter | underscore
    · rw [isLetter, CodeSet.not_contains_of_lt letters_ascending (by omega)] at letter
      cases letter
    · obtain rfl : c = '_' := by simpa using underscore
      exact absurd bounds.2 (by decide)

theorem quote_apart : ('"').isDigit = false ∧ isWordStart '"' = false ∧ isBlank '"' = false := by
  decide

theorem isBlank_of_isDigit {c : Char} (digit : c.isDigit = true) : isBlank c = false := by
  cases blank : isBlank c with
  | false => rfl
  | true =>
    have code := mem_blankCodes blank
    have bounds : 48 ≤ c.toNat ∧ c.toNat ≤ 57 := by
      simpa [Char.isDigit, UInt32.le_iff_toNat_le] using digit
    have outside : ∀ n ∈ blankCodes, n < 48 ∨ 57 < n := by decide
    rcases outside c.toNat code with below | above
    · exact absurd bounds.1 (Nat.not_le.mpr below)
    · exact absurd bounds.2 (Nat.not_le.mpr above)

theorem isBlank_of_isWordStart {c : Char} (start : isWordStart c = true) : isBlank c = false :=
  isBlank_of_isWordPart (isWordPart_of_isWordStart start)

/-! ## Lexemes by kind -/

/-- A word: a start and any number of parts. -/
def IsWord (word : List Char) : Prop :=
  ∃ head tail, word = head :: tail ∧ isWordStart head = true ∧ ∀ c ∈ tail, isWordPart c = true

theorem isWord_of_all {head : Char} {tail : List Char} (start : isWordStart head = true)
    (parts : tail.all isWordPart = true) : IsWord (head :: tail) :=
  ⟨head, tail, rfl, start, List.all_eq_true.mp parts⟩

/-- The words that are no identifiers are words. -/
theorem isWord_of_keyword {word : List Char}
    (keyword : word = ['i', 'f'] ∨ word = ['t', 'r', 'u', 'e'] ∨ word = ['f', 'a', 'l', 's', 'e']) :
    IsWord word := by
  rcases keyword with rfl | rfl | rfl
  all_goals exact isWord_of_all (by decide +kernel) (by decide +kernel)

/-- A character that starts no token of the language. -/
structure Unknown (c : Char) : Prop where
  blank : isBlank c = false
  digit : c.isDigit = false
  word : isWordStart c = false
  quote : isQuote c = false
  symbol : c ∉ symbols

namespace Token

namespace Kind

/-- The text of the kinds of operators and punctuation. -/
def symbol? : Kind → Option (List Char)
  | .semicolon => some [';']
  | .leftParen => some ['(']
  | .rightParen => some [')']
  | .leftBrace => some ['\x7b']
  | .rightBrace => some ['\x7d']
  | .bang => some ['!']
  | .minus => some ['-']
  | .plus => some ['+']
  | .star => some ['*']
  | .slash => some ['/']
  | .assignment => some ['=']
  | .equals => some ['=', '=']
  | .bangEquals => some ['!', '=']
  | .greater => some ['>']
  | .greaterEquals => some ['>', '=']
  | .smaller => some ['<']
  | .smallerEquals => some ['<', '=']
  | _ => none

/-- What the lexemes of a kind are in source texts. A dot and the end have none. -/
def Spells (kind : Kind) (lexeme : List Char) : Prop :=
  match kind with
  | .integerLiteral => lexeme ≠ [] ∧ ∀ c ∈ lexeme, c.isDigit = true
  | .booleanLiteral | .ifWord | .identifier => IsWord lexeme ∧ Piece.wordKind lexeme = kind
  | .stringLiteral => ∀ c ∈ lexeme, isQuote c = false
  | .invalidToken => ∃ c, lexeme = [c] ∧ Unknown c
  | kind => kind.symbol? = some lexeme

/-- Whether a character right after a token would go on with it. -/
def extendedBy : Kind → Char → Bool
  | .integerLiteral, c => c.isDigit
  | .booleanLiteral, c | .ifWord, c | .identifier, c => isWordPart c
  | .assignment, c | .bang, c | .greater, c | .smaller, c => c == '='
  | _, _ => false

/-- The text of a lexeme in a source: string literals stand between quotes. -/
def text : Kind → List Char → List Char
  | .stringLiteral, lexeme => '"' :: (lexeme ++ ['"'])
  | _, lexeme => lexeme

end Kind

end Token

/-! ## Reading a piece -/

namespace Piece

theorem head_dropWhile (p : Char → Bool) (input : List Char) :
    ∀ c ∈ (input.dropWhile p).head?, p c = false := by
  intro c mem
  cases eq : input.dropWhile p with
  | nil =>
    rw [eq] at mem
    cases mem
  | cons head tail =>
    rw [eq] at mem
    cases mem
    have := List.head_dropWhile_not p (l := input) (by simp [eq])
    simpa [eq] using this

theorem takeWhile_run {α : Type} {p : α → Bool} {run rest : List α}
    (within : ∀ c ∈ run, p c = true) (stops : ∀ c ∈ rest.head?, p c = false) :
    (run ++ rest).takeWhile p = run ∧ (run ++ rest).dropWhile p = rest := by
  rw [List.takeWhile_append_of_pos within, List.dropWhile_append_of_pos within]
  cases rest with
  | nil => simp
  | cons c tail =>
    have stop : p c = false := stops c rfl
    simp [stop]

theorem wordKind_cases (word : List Char) :
    wordKind word = .ifWord ∨ wordKind word = .booleanLiteral ∨ wordKind word = .identifier := by
  unfold wordKind
  split
  · exact .inl rfl
  · split
    · exact .inr (.inl rfl)
    · exact .inr (.inr rfl)

theorem wordKind_eq_ifWord_iff {word : List Char} :
    wordKind word = .ifWord ↔ word = ['i', 'f'] := by
  unfold wordKind
  split
  · rename_i same
    exact iff_of_true rfl same
  · rename_i other
    refine iff_of_false ?_ other
    split <;> decide

theorem wordKind_eq_booleanLiteral_iff {word : List Char} :
    wordKind word = .booleanLiteral ↔
      word = ['t', 'r', 'u', 'e'] ∨ word = ['f', 'a', 'l', 's', 'e'] := by
  unfold wordKind
  split
  · rename_i same
    rw [same]
    decide
  · split
    · rename_i truth
      exact iff_of_true rfl (by simpa using truth)
    · rename_i other
      exact iff_of_false (by decide) (by simpa using other)

theorem spells_word {word : List Char} (isWord : IsWord word) : (wordKind word).Spells word := by
  rcases wordKind_cases word with kind | kind | kind
  all_goals
    rw [kind]
    exact ⟨isWord, kind⟩

/-- Two words spell truth values. -/
theorem spells_truth {word : List Char}
    (truth : word = ['t', 'r', 'u', 'e'] ∨ word = ['f', 'a', 'l', 's', 'e']) :
    Token.Kind.booleanLiteral.Spells word :=
  ⟨isWord_of_keyword (.inr truth), wordKind_eq_booleanLiteral_iff.mpr truth⟩

theorem symbol_of_simpleKind? {c : Char} {kind : Token.Kind} (h : simpleKind? c = some kind) :
    kind.symbol? = some [c] := by
  unfold simpleKind? at h
  split at h <;> cases h <;> rfl

theorem symbol_of_extensibleKinds? {c : Char} {alone extended : Token.Kind}
    (h : extensibleKinds? c = some (alone, extended)) :
    alone.symbol? = some [c] ∧ extended.symbol? = some [c, '='] := by
  unfold extensibleKinds? at h
  split at h <;> cases h <;> exact ⟨rfl, rfl⟩

theorem spells_of_symbol? {kind : Token.Kind} {lexeme : List Char}
    (h : kind.symbol? = some lexeme) : kind.Spells lexeme := by
  cases kind <;> first | exact h | cases h

theorem not_mem_symbols {c : Char} (simple : simpleKind? c = none)
    (extensible : extensibleKinds? c = none) : c ∉ symbols := by
  intro mem
  have known : symbols.all (fun s => (simpleKind? s).isSome || (extensibleKinds? s).isSome) =
      true := by decide
  have own := List.all_eq_true.mp known c mem
  rw [simple, extensible] at own
  cases own

theorem kinds_of_not_mem_symbols {c : Char} (other : c ∉ symbols) :
    simpleKind? c = none ∧ extensibleKinds? c = none := by
  constructor
  · unfold simpleKind?
    split <;> first | rfl | exact absurd (by decide) other
  · unfold extensibleKinds?
    split <;> first | rfl | exact absurd (by decide) other

theorem readSymbol_unknown {c : Char} (other : c ∉ symbols) (rest : List Char) :
    readSymbol c rest = ⟨.invalidToken, [c], rest⟩ := by
  obtain ⟨simple, extensible⟩ := kinds_of_not_mem_symbols other
  unfold readSymbol
  rw [simple, extensible]

theorem readSymbol_spells {head : Char} {tail : List Char} (blank : isBlank head = false)
    (digit : head.isDigit = false) (word : isWordStart head = false)
    (quote : isQuote head = false) :
    (readSymbol head tail).kind.Spells (readSymbol head tail).lexeme := by
  unfold readSymbol
  cases simple : simpleKind? head with
  | some kind => exact spells_of_symbol? (symbol_of_simpleKind? simple)
  | none =>
    dsimp only
    split
    · rename_i extensible
      exact spells_of_symbol? (symbol_of_extensibleKinds? extensible).2
    · rename_i extensible _
      exact spells_of_symbol? (symbol_of_extensibleKinds? extensible).1
    · rename_i extensible
      exact ⟨head, rfl, blank, digit, word, quote, not_mem_symbols simple extensible⟩

/-- The lexeme of a token fits its kind. -/
theorem read_spells {head : Char} {tail : List Char} (blank : isBlank head = false) :
    (read head tail).kind.Spells (read head tail).lexeme := by
  unfold read
  cases digit : head.isDigit with
  | true =>
    refine ⟨by simp, ?_⟩
    intro c mem
    rcases List.mem_cons.mp mem with rfl | later
    · exact digit
    · exact List.mem_takeWhile_imp later
  | false =>
    cases word : isWordStart head with
    | true => exact spells_word ⟨head, _, rfl, word, fun c mem => List.mem_takeWhile_imp mem⟩
    | false =>
      cases quote : isQuote head with
      | true =>
        intro c mem
        simpa using List.mem_takeWhile_imp mem
      | false => exact readSymbol_spells blank digit word quote

/-! ## Reading a text back -/

theorem read_symbol {head : Char} (mem : head ∈ symbols) (tail : List Char) :
    read head tail = readSymbol head tail := by
  obtain ⟨-, digit, word, -, quote⟩ := symbols_apart mem
  rw [read, digit, word, quote]
  rfl

/-- A symbol that an equals sign would extend stands alone before anything else. -/
theorem readSymbol_alone {head : Char} {alone extended : Token.Kind} {rest : List Char}
    (simple : simpleKind? head = none) (extensible : extensibleKinds? head = some (alone, extended))
    (stops : ∀ c ∈ rest.head?, (c == '=') = false) :
    readSymbol head rest = ⟨alone, [head], rest⟩ := by
  cases rest with
  | nil => simp [readSymbol, simple, extensible]
  | cons c tail =>
    have other : c ≠ '=' := beq_eq_false_iff_ne.mp (stops c rfl)
    simp [readSymbol, simple, extensible, other]

/-- A symbol is read back unless an equals sign would go on with it. -/
theorem readSymbol_text {kind : Token.Kind} {lexeme rest : List Char}
    (symbol : kind.symbol? = some lexeme) (stops : ∀ c ∈ rest.head?, kind.extendedBy c = false) :
    ∃ head tail, lexeme ++ rest = head :: tail ∧ head ∈ symbols ∧
      readSymbol head tail = ⟨kind, lexeme, rest⟩ := by
  cases kind <;> cases symbol
  case assignment | bang | greater | smaller =>
    exact ⟨_, rest, rfl, by decide, readSymbol_alone rfl rfl stops⟩
  case equals | bangEquals | greaterEquals | smallerEquals =>
    exact ⟨_, '=' :: rest, rfl, by decide, rfl⟩
  all_goals exact ⟨_, rest, rfl, by decide, rfl⟩

/-- A word is read back unless a part of a word follows. -/
theorem read_word {kind : Token.Kind} {word rest : List Char} (isWord : IsWord word)
    (kindOf : wordKind word = kind) (stops : ∀ c ∈ rest.head?, isWordPart c = false) :
    ∃ head tail, word ++ rest = head :: tail ∧ isBlank head = false ∧
      read head tail = ⟨kind, word, rest⟩ := by
  obtain ⟨head, tail, rfl, start, parts⟩ := isWord
  obtain ⟨taken, left⟩ := takeWhile_run parts stops
  refine ⟨head, tail ++ rest, rfl, isBlank_of_isWordStart start, ?_⟩
  rw [read, isDigit_of_isWordStart start, start, taken, left, ← kindOf]
  rfl

/-- A token is read off the front of its text and of whatever does not go on with it. -/
theorem read_text {kind : Token.Kind} {lexeme rest : List Char} (spells : kind.Spells lexeme)
    (stops : ∀ c ∈ rest.head?, kind.extendedBy c = false) :
    ∃ head tail, kind.text lexeme ++ rest = head :: tail ∧ isBlank head = false ∧
      read head tail = ⟨kind, lexeme, rest⟩ := by
  cases kind
  case integerLiteral =>
    obtain ⟨nonempty, digits⟩ := spells
    obtain ⟨head, tail, rfl⟩ := List.exists_cons_of_ne_nil nonempty
    have digit := digits head List.mem_cons_self
    obtain ⟨taken, left⟩ := takeWhile_run
      (fun c mem => digits c (List.mem_cons_of_mem _ mem)) stops
    refine ⟨head, tail ++ rest, rfl, isBlank_of_isDigit digit, ?_⟩
    rw [read, digit, taken, left]
    rfl
  case booleanLiteral | ifWord | identifier => exact read_word spells.1 spells.2 stops
  case stringLiteral =>
    have content : ∀ c ∈ lexeme, (!isQuote c) = true := fun c mem => by simp [spells c mem]
    have closed : ∀ c ∈ ('"' :: rest).head?, (!isQuote c) = false := by simp [isQuote]
    obtain ⟨taken, left⟩ := takeWhile_run content closed
    refine ⟨'"', lexeme ++ '"' :: rest, by simp [Token.Kind.text], quote_apart.2.2, ?_⟩
    rw [read, quote_apart.1, quote_apart.2.1, taken, left]
    rfl
  case invalidToken =>
    obtain ⟨c, rfl, unknown⟩ := spells
    refine ⟨c, rest, rfl, unknown.blank, ?_⟩
    rw [read, unknown.digit, unknown.word, unknown.quote]
    exact readSymbol_unknown unknown.symbol rest
  all_goals
    obtain ⟨head, tail, text, symbol, piece⟩ := readSymbol_text spells stops
    refine ⟨head, tail, text, (symbols_apart symbol).1, ?_⟩
    rw [read_symbol symbol, piece]

end Piece

/-- Only string literals have a text other than their lexeme. -/
theorem Token.Kind.text_of_ne {kind : Token.Kind} (other : kind ≠ .stringLiteral)
    (lexeme : List Char) : kind.text lexeme = lexeme := by
  cases kind <;> first | rfl | exact absurd rfl other

theorem Token.Kind.text_string_append (lexeme rest : List Char) :
    Kind.stringLiteral.text lexeme ++ rest = '"' :: (lexeme ++ '"' :: rest) := by
  simp [text]

/-- The text of a token has as many line ends as its lexeme. -/
theorem Token.Kind.lineEnds_text (kind : Token.Kind) (lexeme : List Char) :
    lineEnds (kind.text lexeme) = lineEnds lexeme := by
  cases kind
  case stringLiteral => simp [text, lineEnds]
  all_goals rfl

theorem Token.Kind.text_ne_nil {kind : Token.Kind} {lexeme : List Char}
    (spells : kind.Spells lexeme) : kind.text lexeme ≠ [] := by
  obtain ⟨head, tail, text, -⟩ := @Piece.read_text kind lexeme [] spells (by simp)
  rw [List.append_nil] at text
  rw [text]
  exact List.cons_ne_nil head tail

/-- A text that an operator in front of it does not take a part of. -/
def StartsOperand (text : List Char) : Prop :=
  ∃ head tail, text = head :: tail ∧ head ≠ '='

theorem Piece.readSymbol_equals (tail : List Char) :
    (readSymbol '=' tail).kind = .assignment ∨ (readSymbol '=' tail).kind = .equals := by
  by_cases extended : ∀ c ∈ tail.head?, (c == '=') = false
  · rw [@readSymbol_alone '=' .assignment .equals tail rfl rfl extended]
    exact .inl rfl
  · cases tail with
    | nil => simp at extended
    | cons c rest =>
      obtain rfl : c = '=' := by simpa using extended
      exact .inr rfl

/-- Only two kinds of token start with an equals sign. -/
theorem startsOperand_text {kind : Token.Kind} {lexeme : List Char} (spells : kind.Spells lexeme)
    (other : kind ≠ .assignment ∧ kind ≠ .equals) : StartsOperand (kind.text lexeme) := by
  obtain ⟨head, tail, text, -, piece⟩ := @Piece.read_text kind lexeme [] spells (by simp)
  rw [List.append_nil] at text
  refine ⟨head, tail, text, ?_⟩
  rintro rfl
  rw [Piece.read_symbol (by decide)] at piece
  rcases Piece.readSymbol_equals tail with kindOf | kindOf
  · rw [piece] at kindOf
    exact other.1 kindOf
  · rw [piece] at kindOf
    exact other.2 kindOf

/-! ## Tokens of a source -/

namespace Token

/-- The lexeme of a token fits its kind. -/
def Spelled (token : Token) : Prop :=
  token.kind.Spells token.lexeme.toList

/-- The text of a token in a source. -/
def text (token : Token) : List Char :=
  token.kind.text token.lexeme.toList

/-- The lexeme of an operator or of a parenthesis is settled by its kind. -/
theorem Spelled.lexeme_eq {token : Token} {text : List Char} (spells : token.Spelled)
    (symbol : token.kind.symbol? = some text) : token.lexeme.toList = text := by
  obtain ⟨kind, lexeme, line⟩ := token
  cases kind <;> first | exact Option.some.inj (spells.symm.trans symbol) | cases symbol

/-- So is its text. -/
theorem Spelled.text_eq {token : Token} {text : List Char} (spells : token.Spelled)
    (symbol : token.kind.symbol? = some text) : token.text = text := by
  rw [Token.text, spells.lexeme_eq symbol]
  obtain ⟨kind, lexeme, line⟩ := token
  cases kind <;> first | rfl | cases symbol

theorem Spelled.kind_ne_endOfFile {token : Token} (spelled : token.Spelled) :
    token.kind ≠ .endOfFile := by
  intro kind
  rw [Spelled, kind] at spelled
  cases spelled

end Token

namespace Cursor

/-- What a cursor hands out next depends on where the white space ends. -/
theorem next?_eq (cursor : Cursor) :
    cursor.next? =
      match cursor.skipBlanks with
      | ⟨[], _⟩ => none
      | ⟨head :: tail, line⟩ =>
        some (⟨(Piece.read head tail).kind, String.ofList (Piece.read head tail).lexeme, line⟩,
          ⟨(Piece.read head tail).rest, line + lineEnds (Piece.read head tail).lexeme⟩) :=
  rfl

theorem drain_of_none {cursor : Cursor} (h : cursor.next? = none) :
    cursor.drain = ([], cursor) := by
  rw [drain]
  split
  · rfl
  · rename_i some
    rw [h] at some
    cases some

/-- Taking all tokens starts with the next one. -/
theorem drain_of_next? {cursor after : Cursor} {token : Token}
    (h : cursor.next? = some (token, after)) :
    cursor.drain = (token :: after.drain.1, after.drain.2) := by
  rw [drain]
  split
  · rename_i none
    rw [h] at none
    cases none
  · rename_i some
    rw [h] at some
    cases some
    rfl

/-- White space in front of a cursor goes into its line. -/
theorem skipBlanks_cons {c : Char} (blank : isBlank c = true) (rest : List Char) (line : Nat) :
    (⟨c :: rest, line⟩ : Cursor).skipBlanks =
      (⟨rest, line + lineEnds [c]⟩ : Cursor).skipBlanks := by
  have count : lineEnds (c :: rest.takeWhile isBlank) =
      lineEnds [c] + lineEnds (rest.takeWhile isBlank) := lineEnds_append [c] _
  simp [skipBlanks, blank, count, Nat.add_assoc]

/-- White space in front of a text is no part of any token. -/
theorem drain_blank {c : Char} (blank : isBlank c = true) (rest : List Char) (line : Nat) :
    (⟨c :: rest, line⟩ : Cursor).drain.1 = (⟨rest, line + lineEnds [c]⟩ : Cursor).drain.1 := by
  have same : (⟨c :: rest, line⟩ : Cursor).next? = (⟨rest, line + lineEnds [c]⟩ : Cursor).next? := by
    rw [next?_eq, next?_eq, skipBlanks_cons blank]
  cases next : (⟨rest, line + lineEnds [c]⟩ : Cursor).next? with
  | none => rw [drain_of_none (same.trans next), drain_of_none next]
  | some step =>
    rw [drain_of_next? (same.trans next), drain_of_next? next]

theorem drain_blanks {blanks : List Char} (blank : ∀ c ∈ blanks, isBlank c = true)
    (rest : List Char) (line : Nat) :
    (⟨blanks ++ rest, line⟩ : Cursor).drain.1 =
      (⟨rest, line + lineEnds blanks⟩ : Cursor).drain.1 := by
  induction blanks generalizing line with
  | nil => rfl
  | cons c blanks ih =>
    have count : lineEnds (c :: blanks) = lineEnds [c] + lineEnds blanks :=
      lineEnds_append [c] blanks
    rw [List.cons_append, drain_blank (blank c List.mem_cons_self),
      ih fun d mem => blank d (List.mem_cons_of_mem _ mem), count, Nat.add_assoc]

/-- A token is the first of its text and of whatever does not go on with it. -/
theorem drain_text {kind : Token.Kind} {lexeme rest : List Char} (spells : kind.Spells lexeme)
    (stops : ∀ c ∈ rest.head?, kind.extendedBy c = false) (line : Nat) :
    (⟨kind.text lexeme ++ rest, line⟩ : Cursor).drain.1 =
      ⟨kind, String.ofList lexeme, line⟩ ::
        (⟨rest, line + lineEnds lexeme⟩ : Cursor).drain.1 := by
  obtain ⟨head, tail, text, blank, piece⟩ := Piece.read_text spells stops
  have next : (⟨kind.text lexeme ++ rest, line⟩ : Cursor).next? =
      some (⟨kind, String.ofList lexeme, line⟩, ⟨rest, line + lineEnds lexeme⟩) := by
    rw [text, next?_eq]
    simp [skipBlanks, blank, piece, lineEnds]
  rw [drain_of_next? next]

theorem next?_spelled {cursor after : Cursor} {token : Token}
    (h : cursor.next? = some (token, after)) : token.Spelled := by
  rw [next?_eq] at h
  split at h
  · cases h
  · rename_i head tail line skipped
    have dropped : cursor.rest.dropWhile isBlank = head :: tail := congrArg Cursor.rest skipped
    have blank : isBlank head = false :=
      Piece.head_dropWhile isBlank cursor.rest head (by rw [dropped]; rfl)
    cases h
    rw [Token.Spelled, String.toList_ofList]
    exact Piece.read_spells blank

theorem drain_spelled (cursor : Cursor) : ∀ token ∈ cursor.drain.1, token.Spelled := by
  fun_induction drain cursor with
  | case1 => simp
  | case2 cursor token after next tokens last eq ih =>
    intro found mem
    rcases List.mem_cons.mp mem with rfl | later
    · exact next?_spelled next
    · rw [eq] at ih
      exact ih found later

end Cursor

/-- The lexemes of a source text fit their kinds. -/
theorem tokenize_spelled (source : String) : ∀ token ∈ tokenize source, token.Spelled :=
  (Cursor.ofSource source).drain_spelled

/-- The text of a lexeme with nothing behind it is one token. -/
theorem Cursor.drain_last {kind : Token.Kind} {lexeme : List Char} (spells : kind.Spells lexeme)
    (line : Nat) :
    (⟨kind.text lexeme, line⟩ : Cursor).drain.1 = [⟨kind, String.ofList lexeme, line⟩] := by
  have drained := @drain_text _ _ [] spells (fun _ mem => by cases mem) line
  rw [List.append_nil, @drain_of_none ⟨[], _⟩ rfl] at drained
  exact drained

theorem tokenize_text {kind : Token.Kind} {lexeme : List Char} (spells : kind.Spells lexeme) :
    tokenize (String.ofList (kind.text lexeme)) = [⟨kind, String.ofList lexeme, 1⟩] := by
  show (⟨(String.ofList (kind.text lexeme)).toList, 1⟩ : Cursor).drain.1 = _
  rw [String.toList_ofList]
  exact Cursor.drain_last spells 1

end Abacus
