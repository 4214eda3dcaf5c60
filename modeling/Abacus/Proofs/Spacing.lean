import Abacus.Proofs.Scanning

/-!
# Sources that are scanned to their end

Tokens are cut from a text more generously than the grammar finds its lexemes: a string literal may
go on to the end of the text without a quote, and the white space between tokens may be of any
script. In a text that makes no use of either, the grammar finds the tokens that it admits, and no
other text is scanned to its end.

Results:
1. `Piece.read_split`: a token is its text, unless it is a string literal that is left open.
2. `Terminal.first?_text`: the grammar finds the text of a token wherever it admits its kind.
3. `scan_text` and `tidy_of_scan`: scanning passes over tokens, and to the end only in tidy texts.
-/

namespace Abacus

open Text

/-! ## Quotes and white space -/

/-- Whether a text ends inside of a string literal, if it starts inside of one or not. Each quote
either starts a literal or ends it. -/
def endsInside : Bool → List Char → Bool
  | inside, [] => inside
  | inside, c :: rest => endsInside (if isQuote c then !inside else inside) rest

/-- The characters of a text that are outside of string literals. -/
def outside : Bool → List Char → List Char
  | _, [] => []
  | inside, c :: rest =>
    if isQuote c then outside (!inside) rest
    else if inside then outside inside rest
    else c :: outside inside rest

/-- A text with all its string literals closed and, outside of them, no other white space than the
grammar passes over. -/
structure Tidy (text : List Char) : Prop where
  closed : endsInside false text = false
  spaced : ∀ c ∈ outside false text, isBlank c = true → Grammar.isSpace c = true

theorem isQuote_of_isBlank {c : Char} (blank : isBlank c = true) : isQuote c = false := by
  rw [isQuote, beq_eq_false_iff_ne]
  rintro rfl
  cases quote_apart.2.2.symm.trans blank

instance (text : List Char) : Decidable (Tidy text) :=
  decidable_of_iff
    (endsInside false text = false ∧
      (outside false text).all (fun c => !isBlank c || Grammar.isSpace c) = true)
    (by
      have same : (outside false text).all (fun c => !isBlank c || Grammar.isSpace c) = true ↔
          ∀ c ∈ outside false text, isBlank c = true → Grammar.isSpace c = true := by
        simp only [List.all_eq_true, Bool.or_eq_true, Bool.not_eq_true', Bool.eq_false_iff,
          imp_iff_not_or, ne_eq]
      rw [same]
      exact ⟨fun ⟨closed, spaced⟩ => ⟨closed, spaced⟩, fun ⟨closed, spaced⟩ => ⟨closed, spaced⟩⟩)

section

variable {text rest : List Char}

theorem tidy_nil : Tidy [] :=
  ⟨rfl, fun _ mem => absurd mem List.not_mem_nil⟩

theorem endsInside_append (plain : ∀ c ∈ text, isQuote c = false) (inside : Bool) :
    endsInside inside (text ++ rest) = endsInside inside rest := by
  induction text with
  | nil => rfl
  | cons c text ih =>
    rw [List.cons_append, endsInside, plain c List.mem_cons_self]
    exact ih fun d mem => plain d (List.mem_cons_of_mem _ mem)

theorem outside_append (plain : ∀ c ∈ text, isQuote c = false) (inside : Bool) :
    outside inside (text ++ rest) = (if inside then [] else text) ++ outside inside rest := by
  induction text with
  | nil => cases inside <;> rfl
  | cons c text ih =>
    have later := ih fun d mem => plain d (List.mem_cons_of_mem _ mem)
    rw [List.cons_append, outside, plain c List.mem_cons_self]
    cases inside with
    | true => exact later
    | false => exact congrArg (c :: ·) later

/-- In front of a text, a part without quotes adds its own white space. -/
theorem tidy_append (plain : ∀ c ∈ text, isQuote c = false) :
    Tidy (text ++ rest) ↔
      (∀ c ∈ text, isBlank c = true → Grammar.isSpace c = true) ∧ Tidy rest := by
  constructor
  · rintro ⟨closed, spaced⟩
    rw [endsInside_append plain] at closed
    rw [outside_append plain false] at spaced
    exact ⟨fun c mem => spaced c (List.mem_append_left _ mem), closed,
      fun c mem => spaced c (List.mem_append_right _ mem)⟩
  · rintro ⟨own, closed, spaced⟩
    refine ⟨(endsInside_append plain _).trans closed, ?_⟩
    rw [outside_append plain false]
    intro c mem
    rcases List.mem_append.mp mem with front | behind
    · exact own c front
    · exact spaced c behind

/-- White space in front of a tidy text is known to the grammar. -/
theorem Tidy.spaces (tidy : Tidy (text ++ rest)) (blanks : ∀ c ∈ text, isBlank c = true) :
    (∀ c ∈ text, Grammar.isSpace c = true) ∧ Tidy rest := by
  obtain ⟨plain, behind⟩ := (tidy_append fun c mem => isQuote_of_isBlank (blanks c mem)).mp tidy
  exact ⟨fun c mem => plain c mem (blanks c mem), behind⟩

/-- In front of a text, a string literal adds nothing. -/
theorem tidy_string (plain : ∀ c ∈ text, isQuote c = false) :
    Tidy ('"' :: (text ++ '"' :: rest)) ↔ Tidy rest := by
  have ends : endsInside false ('"' :: (text ++ '"' :: rest)) = endsInside false rest :=
    endsInside_append plain true
  have left : outside false ('"' :: (text ++ '"' :: rest)) = outside false rest :=
    outside_append plain true
  constructor
  · rintro ⟨closed, spaced⟩
    exact ⟨ends.symm.trans closed, left ▸ spaced⟩
  · rintro ⟨closed, spaced⟩
    exact ⟨ends.trans closed, left ▸ spaced⟩

/-- A text ends inside of a string literal that no quote ends. -/
theorem endsInside_open (plain : ∀ c ∈ text, isQuote c = false) :
    endsInside false ('"' :: text) = true := by
  have ends : endsInside false ('"' :: (text ++ [])) = true := endsInside_append plain true
  rw [List.append_nil] at ends
  exact ends

theorem not_tidy_open (plain : ∀ c ∈ text, isQuote c = false) : ¬Tidy ('"' :: text) := by
  rintro ⟨closed, -⟩
  cases closed.symm.trans (endsInside_open plain)

end

/-! ## Texts of tokens -/

theorem isQuote_of_isWordPart {c : Char} (part : isWordPart c = true) : isQuote c = false := by
  cases quote : isQuote c with
  | false => rfl
  | true =>
    obtain rfl : c = '"' := beq_iff_eq.mp quote
    exact absurd part (by decide)

theorem isWordPart_of_mem {word : List Char} (isWord : IsWord word) :
    ∀ c ∈ word, isWordPart c = true := by
  obtain ⟨head, tail, rfl, start, parts⟩ := isWord
  intro c mem
  rcases List.mem_cons.mp mem with rfl | later
  · exact isWordPart_of_isWordStart start
  · exact parts c later

theorem mem_symbols_of_symbol? {kind : Token.Kind} {lexeme : List Char}
    (symbol : kind.symbol? = some lexeme) : ∀ c ∈ lexeme, c ∈ symbols := by
  cases kind <;> cases symbol <;> simp [symbols]

/-- Only string literals have quotes or white space in them. -/
theorem plain_of_spells {kind : Token.Kind} {lexeme : List Char} (spells : kind.Spells lexeme)
    (other : kind ≠ .stringLiteral) : ∀ c ∈ lexeme, isQuote c = false ∧ isBlank c = false := by
  intro c mem
  cases kind
  case stringLiteral => exact absurd rfl other
  case integerLiteral =>
    have digit := spells.2 c mem
    refine ⟨?_, isBlank_of_isDigit digit⟩
    rw [isQuote, beq_eq_false_iff_ne]
    rintro rfl
    cases digit
  case booleanLiteral | ifWord | identifier =>
    have part := isWordPart_of_mem spells.1 c mem
    exact ⟨isQuote_of_isWordPart part, isBlank_of_isWordPart part⟩
  case invalidToken =>
    obtain ⟨d, rfl, unknown⟩ := spells
    obtain rfl := List.mem_singleton.mp mem
    exact ⟨unknown.quote, unknown.blank⟩
  all_goals
    obtain ⟨blank, -, -, -, quote⟩ := symbols_apart (mem_symbols_of_symbol? spells c mem)
    exact ⟨quote, blank⟩

/-- The text of a token closes the string literals that it opens. -/
theorem endsInside_text {kind : Token.Kind} {lexeme rest : List Char}
    (spells : kind.Spells lexeme) :
    endsInside false (kind.text lexeme ++ rest) = endsInside false rest := by
  by_cases string : kind = .stringLiteral
  · subst string
    rw [Token.Kind.text_string_append]
    exact endsInside_append spells true
  · rw [Token.Kind.text_of_ne string]
    exact endsInside_append (fun c mem => (plain_of_spells spells string c mem).1) false

/-- In front of a text, the text of a token adds nothing. -/
theorem tidy_text {kind : Token.Kind} {lexeme rest : List Char} (spells : kind.Spells lexeme) :
    Tidy (kind.text lexeme ++ rest) ↔ Tidy rest := by
  by_cases string : kind = .stringLiteral
  · subst string
    rw [Token.Kind.text_string_append]
    exact tidy_string spells
  · have plain := plain_of_spells spells string
    rw [Token.Kind.text_of_ne string, tidy_append fun c mem => (plain c mem).1]
    refine and_iff_right fun c mem blank => ?_
    cases (plain c mem).2.symm.trans blank

/-- A symbol is its text, and nothing behind it goes on with it. -/
theorem Piece.readSymbol_split (head : Char) (tail : List Char) :
    (readSymbol head tail).kind.text (readSymbol head tail).lexeme ++ (readSymbol head tail).rest =
        head :: tail ∧
      ∀ c ∈ (readSymbol head tail).rest.head?,
        (readSymbol head tail).kind.extendedBy c = false := by
  unfold readSymbol
  cases simple : simpleKind? head with
  | some kind =>
    unfold simpleKind? at simple
    split at simple <;> cases simple <;> exact ⟨rfl, fun _ _ => rfl⟩
  | none =>
    dsimp only
    split
    · rename_i extensible
      unfold extensibleKinds? at extensible
      split at extensible <;> cases extensible <;> exact ⟨rfl, fun _ _ => rfl⟩
    · rename_i tail _ _ alone _ extensible other
      have notEquals : ∀ c ∈ tail.head?, (c == '=') = false := by
        intro c mem
        rw [beq_eq_false_iff_ne]
        rintro rfl
        obtain ⟨rest, starts⟩ := List.head?_eq_some_iff.mp mem
        exact other rest starts
      unfold extensibleKinds? at extensible
      split at extensible <;> cases extensible <;> exact ⟨rfl, notEquals⟩
    · exact ⟨rfl, fun _ _ => rfl⟩

/-- A token is its text, and nothing behind it goes on with it, unless it is a string literal that
is left open. -/
theorem Piece.read_split (head : Char) (tail : List Char) :
    ((read head tail).kind.text (read head tail).lexeme ++ (read head tail).rest = head :: tail ∧
      ∀ c ∈ (read head tail).rest.head?, (read head tail).kind.extendedBy c = false) ∨
    ∃ lexeme, head :: tail = '"' :: lexeme ∧ ∀ c ∈ lexeme, isQuote c = false := by
  unfold read
  split
  · refine .inl ⟨?_, head_dropWhile _ _⟩
    exact congrArg (head :: ·) List.takeWhile_append_dropWhile
  split
  · -- Whichever word it is, it is its own text and goes on with parts of words.
    have parts := List.takeWhile_append_dropWhile (p := isWordPart) (l := tail)
    rcases wordKind_cases (head :: tail.takeWhile isWordPart) with kind | kind | kind
    all_goals
      dsimp only
      rw [kind]
      exact .inl ⟨congrArg (head :: ·) parts, head_dropWhile _ _⟩
  split
  · rename_i quote
    obtain rfl : head = '"' := beq_iff_eq.mp quote
    have content : ∀ c ∈ tail.takeWhile (!isQuote ·), isQuote c = false := by
      intro c mem
      simpa using List.mem_takeWhile_imp mem
    have parts := List.takeWhile_append_dropWhile (p := (!isQuote ·)) (l := tail)
    cases left : tail.dropWhile (!isQuote ·) with
    | nil =>
      rw [left, List.append_nil] at parts
      rw [parts] at content
      exact .inr ⟨tail, rfl, content⟩
    | cons closing rest =>
      have closes := head_dropWhile (!isQuote ·) tail closing (by rw [left]; rfl)
      obtain rfl : closing = '"' := by simpa [isQuote] using closes
      rw [left] at parts
      refine .inl ⟨?_, fun _ _ => rfl⟩
      simp only [Token.Kind.text, List.cons_append, List.append_assoc, List.drop_one,
        List.tail_cons, List.nil_append, parts]
  · exact .inl (readSymbol_split head tail)

/-! ## Lexemes of the grammar -/

namespace Grammar

/-- A pattern of one text does not match what starts differently. -/
theorem Pattern.match?_exact_of_ne {head c : Char} (differs : head ≠ c) (tail input : List Char) :
    (Pattern.exact head tail).match? (c :: input) = none := by
  rw [match?, if_neg]
  simp [List.isPrefixOf, differs]

theorem Pattern.match?_digits {digits rest : List Char} (nonempty : digits ≠ [])
    (within : ∀ c ∈ digits, c.isDigit = true) (stops : ∀ c ∈ rest.head?, c.isDigit = false) :
    Pattern.digits.match? (digits ++ rest) = some (digits, rest) := by
  obtain ⟨taken, left⟩ := Piece.takeWhile_run within stops
  rw [match?, taken, left]
  cases digits with
  | nil => exact absurd rfl nonempty
  | cons digit digits => rfl

theorem Pattern.match?_quoted {inside : List Char} (within : ∀ c ∈ inside, isQuote c = false)
    (rest : List Char) :
    Pattern.quoted.match? ('"' :: (inside ++ '"' :: rest)) =
      some ('"' :: (inside ++ ['"']), rest) := by
  have others : ∀ c ∈ inside, (c != '"') = true := by
    intro c mem
    rw [bne_iff_ne]
    rintro rfl
    cases within _ mem
  obtain ⟨taken, left⟩ := @Piece.takeWhile_run _ (· != '"') inside ('"' :: rest) others
    (by rintro c ⟨⟩; rfl)
  rw [match?, taken, left]
  rfl

/-- A pattern of two characters does not match its first one before anything else. -/
theorem Pattern.match?_pair_of_alone {head second : Char} {rest : List Char}
    (alone : ∀ c ∈ rest.head?, (c == second) = false) :
    (Pattern.exact head [second]).match? (head :: rest) = none := by
  cases rest with
  | nil => simp [match?, List.isPrefixOf]
  | cons c rest =>
    have differs : second ≠ c := (beq_eq_false_iff_ne.mp (alone c rfl)).symm
    simp [match?, List.isPrefixOf, differs]

namespace Terminal

/-- The first terminal that fits is found behind those that do not. -/
theorem first?_behind {before : List Terminal} {terminal : Terminal} {input text rest : List Char}
    (others : ∀ earlier ∈ before, earlier.pattern.match? input = none)
    (fits : terminal.pattern.match? input = some (text, rest)) (after : List Terminal) :
    first? (before ++ terminal :: after) input = some (terminal.kind, text, rest) := by
  induction before with
  | nil =>
    rw [List.nil_append, first?, List.findSome?_cons, fits]
    rfl
  | cons earlier before ih =>
    rw [List.cons_append, first?, List.findSome?_cons, others earlier List.mem_cons_self]
    exact ih fun later mem => others later (List.mem_cons_of_mem _ mem)

/-- Nothing else that may stand in front of an operand starts as a number does. -/
theorem first?_number {digits rest : List Char} (nonempty : digits ≠ [])
    (within : ∀ c ∈ digits, c.isDigit = true) (stops : ∀ c ∈ rest.head?, c.isDigit = false) :
    first? Expected.operand.terminals (digits ++ rest) = some (.integerLiteral, digits, rest) := by
  refine @first?_behind [⟨.minus, .exact '-' []⟩, ⟨.bang, .exact '!' []⟩,
    ⟨.leftParen, .exact '(' []⟩] ⟨.integerLiteral, .digits⟩ _ _ _ ?_
    (Pattern.match?_digits nonempty within stops) _
  obtain ⟨digit, others, rfl⟩ := List.exists_cons_of_ne_nil nonempty
  have differs : ∀ {c : Char}, c.isDigit = false → c ≠ digit := by
    rintro c other rfl
    cases other.symm.trans (within c List.mem_cons_self)
  simp only [List.forall_mem_cons]
  exact ⟨Pattern.match?_exact_of_ne (differs rfl) _ _, Pattern.match?_exact_of_ne (differs rfl) _ _,
    Pattern.match?_exact_of_ne (differs rfl) _ _, List.forall_mem_nil _⟩

/-- Two words are truth values. -/
theorem first?_truth {word : List Char} (kind : Piece.wordKind word = .booleanLiteral)
    (rest : List Char) :
    first? Expected.operand.terminals (word ++ rest) = some (.booleanLiteral, word, rest) := by
  rcases Piece.wordKind_eq_booleanLiteral_iff.mp kind with rfl | rfl
  · rfl
  · rfl

/-- Nothing else that may stand in front of an operand starts with a quote. -/
theorem first?_string {inside : List Char} (within : ∀ c ∈ inside, isQuote c = false)
    (rest : List Char) :
    first? Expected.operand.terminals ('"' :: (inside ++ '"' :: rest)) =
      some (.stringLiteral, '"' :: (inside ++ ['"']), rest) := by
  refine @first?_behind [⟨.minus, .exact '-' []⟩, ⟨.bang, .exact '!' []⟩,
    ⟨.leftParen, .exact '(' []⟩, ⟨.integerLiteral, .digits⟩,
    ⟨.booleanLiteral, .exact 't' ['r', 'u', 'e']⟩,
    ⟨.booleanLiteral, .exact 'f' ['a', 'l', 's', 'e']⟩] ⟨.stringLiteral, .quoted⟩ _ _ _ ?_
    (Pattern.match?_quoted within rest) []
  simp only [List.forall_mem_cons]
  exact ⟨rfl, rfl, rfl, rfl, rfl, rfl, List.forall_mem_nil _⟩

/-- Of the longer operators, none fits where a shorter order stands alone. -/
theorem first?_order {kind : Token.Kind} {lexeme rest : List Char}
    (ordered : kind = .greater ∨ kind = .smaller) (spells : kind.Spells lexeme)
    (alone : ∀ c ∈ rest.head?, (c == '=') = false) :
    first? Expected.operator.terminals (lexeme ++ rest) = some (kind, lexeme, rest) := by
  rcases ordered with rfl | rfl <;> cases spells
  · refine @first?_behind [⟨.equals, .exact '=' ['=']⟩, ⟨.bangEquals, .exact '!' ['=']⟩,
      ⟨.greaterEquals, .exact '>' ['=']⟩, ⟨.smallerEquals, .exact '<' ['=']⟩]
      ⟨.greater, .exact '>' []⟩ _ _ _ ?_ rfl _
    simp only [List.forall_mem_cons]
    exact ⟨rfl, rfl, Pattern.match?_pair_of_alone alone, rfl, List.forall_mem_nil _⟩
  · refine @first?_behind [⟨.equals, .exact '=' ['=']⟩, ⟨.bangEquals, .exact '!' ['=']⟩,
      ⟨.greaterEquals, .exact '>' ['=']⟩, ⟨.smallerEquals, .exact '<' ['=']⟩,
      ⟨.greater, .exact '>' []⟩] ⟨.smaller, .exact '<' []⟩ _ _ _ ?_ rfl _
    simp only [List.forall_mem_cons]
    exact ⟨rfl, rfl, rfl, Pattern.match?_pair_of_alone alone, rfl, List.forall_mem_nil _⟩

/-- The grammar finds the text of a token wherever it admits its kind. -/
theorem first?_text {expected : Expected} {kind : Token.Kind} {lexeme rest : List Char}
    (spells : kind.Spells lexeme) (admits : expected.admits kind = true)
    (stops : ∀ c ∈ rest.head?, kind.extendedBy c = false) :
    first? expected.terminals (kind.text lexeme ++ rest) =
      some (kind, kind.text lexeme, rest) := by
  cases expected with
  | operand =>
    cases kind <;> cases admits
    case integerLiteral.refl => exact first?_number spells.1 spells.2 stops
    case booleanLiteral.refl => exact first?_truth spells.2 rest
    case stringLiteral.refl =>
      have text : Token.Kind.stringLiteral.text lexeme ++ rest =
          '"' :: (lexeme ++ '"' :: rest) := by simp [Token.Kind.text]
      rw [text]
      exact first?_string spells rest
    all_goals
      cases spells
      rfl
  | operator =>
    cases kind <;> cases admits
    case greater.refl => exact first?_order (.inl rfl) spells stops
    case smaller.refl => exact first?_order (.inr rfl) spells stops
    all_goals
      cases spells
      rfl

end Terminal

/-! ## Scanning -/

theorem isQuote_of_isSpace {c : Char} (space : isSpace c = true) : isQuote c = false :=
  isQuote_of_isBlank (isBlank_of_isSpace space)

/-- Where only white space is left, scanning is at the end. -/
theorem scan_spaces {input : List Char} (spaces : ∀ c ∈ input, isSpace c = true)
    (expected : Expected) (place : Place) : scan expected place input = ([], .finished) :=
  scan_end (List.dropWhile_eq_nil_iff.mpr spaces)

/-- Scanning passes over white space and the text of a terminal that may stand behind it. -/
theorem scan_text {expected : Expected} {place : Place} {blanks text rest : List Char}
    {kind : Token.Kind} (spaces : ∀ c ∈ blanks, isSpace c = true)
    (starts : ∀ c ∈ (text ++ rest).head?, isSpace c = false)
    (found : Terminal.first? expected.terminals (text ++ rest) = some (kind, text, rest)) :
    scan expected place (blanks ++ (text ++ rest)) =
      (⟨kind, String.ofList text, place.advance blanks⟩ ::
          (scan (.following kind) ((place.advance blanks).advance text) rest).1,
        (scan (.following kind) ((place.advance blanks).advance text) rest).2) := by
  obtain ⟨taken, left⟩ := Piece.takeWhile_run spaces starts
  cases front : text ++ rest with
  | nil =>
    have shorter := Terminal.first?_length found
    rw [front] at shorter
    cases shorter
  | cons c tail =>
    rw [front] at taken left found
    rw [scan_found left found, taken]

/-- A text that is scanned to its end is tidy. -/
theorem tidy_of_scan {expected : Expected} {place : Place} {input : List Char}
    {lexemes : List Lexeme} (h : scan expected place input = (lexemes, .finished)) :
    Tidy input := by
  rcases scan_finished h with ⟨-, spaces⟩ |
    ⟨blanks, kind, text, rest, later, split, spaces, found, -, scanned⟩
  · rw [← List.append_nil input, tidy_append fun c mem => isQuote_of_isSpace (spaces c mem)]
    exact ⟨fun c mem _ => spaces c mem, tidy_nil⟩
  · obtain ⟨lexeme, rfl, spells, -, -, -⟩ := Terminal.first?_spells found
    rw [split, tidy_append fun c mem => isQuote_of_isSpace (spaces c mem), tidy_text spells]
    exact ⟨fun c mem _ => spaces c mem, tidy_of_scan scanned⟩
termination_by input.length
decreasing_by
  have shorter := Terminal.first?_length found
  rw [split, List.length_append]
  exact Nat.lt_of_lt_of_le shorter (Nat.le_add_left _ _)

end Grammar

end Abacus
