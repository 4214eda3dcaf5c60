import Abacus.Proofs.Spacing

/-!
# Sources are cut up without loss

The tokens of a source are pieces of it, and between them there is nothing but white space: put
together again in order, the pieces and the gaps are the source. Each piece is as long as a token
there can be. The one piece that is not the text of a token is a string literal that no quote ends,
and it ends the source. Where there is none and the grammar knows the white space, its lexemes are
the same pieces, as far as it admits them.

Results:
1. `Cursor.next?_split`: where a token stands that is taken from a text.
2. `exists_cut`: every text is cut into the tokens that are read from it, and white space.
3. `Cut.weave_eq` and `Cut.lies`: what it means for a text to be cut.
4. `Cut.scan` and `Grammar.exists_scan_of_alternates`: scanning follows the cuts.
5. `unknown_iff`: the characters outside the language are those that start no token of it.
6. `tokenize_partition`: what the tokens of a source are to the source.
-/

namespace Abacus

open Text

/-! ## Taking one token -/

/-- `token.Occupies text behind`: the text that a token has in a source, in front of what follows.
What follows would not go on with it. -/
inductive Token.Occupies (token : Token) : List Char → List Char → Prop
  | whole {behind : List Char} :
      (∀ c ∈ behind.head?, token.kind.extendedBy c = false) → Occupies token token.text behind
  /-- A string literal that no quote ends goes on to the end of the source. -/
  | unclosed : token.kind = .stringLiteral → Occupies token ('"' :: token.lexeme.toList) []

theorem Token.Occupies.lineEnds_eq {token : Token} {text behind : List Char}
    (occupies : token.Occupies text behind) : lineEnds text = lineEnds token.lexeme.toList := by
  cases occupies with
  | whole => exact token.kind.lineEnds_text token.lexeme.toList
  | unclosed => simp [lineEnds]

/-- A token is taken off the front of a text, wherever it stands. -/
theorem Piece.read_occupies (head : Char) (tail : List Char) (line : Int) :
    ∃ text, head :: tail = text ++ (read head tail).rest ∧
      Token.Occupies ⟨(read head tail).kind, String.ofList (read head tail).lexeme, line⟩ text
        (read head tail).rest := by
  rcases read_split head tail with ⟨split, stops⟩ | ⟨lexeme, unclosed, inside⟩
  · have occupies := @Token.Occupies.whole
      ⟨(read head tail).kind, String.ofList (read head tail).lexeme, line⟩ _ stops
    rw [Token.text, String.toList_ofList] at occupies
    exact ⟨_, split.symm, occupies⟩
  · obtain ⟨rfl, rfl⟩ := List.cons.inj unclosed
    have content : ∀ c ∈ tail, (!isQuote c) = true := fun c mem => by rw [inside c mem]; rfl
    obtain ⟨taken, left⟩ := @takeWhile_run _ (!isQuote ·) tail [] content (by simp)
    rw [List.append_nil] at taken left
    have piece : read '"' tail = ⟨.stringLiteral, tail, []⟩ := by
      rw [read, quote_apart.1, quote_apart.2.1, taken, left]
      rfl
    have occupies := @Token.Occupies.unclosed ⟨.stringLiteral, String.ofList tail, line⟩ rfl
    rw [String.toList_ofList] at occupies
    rw [piece]
    exact ⟨_, (List.append_nil _).symm, occupies⟩

namespace Cursor

/-- A token is taken from behind some white space, and its text lies between that and the place
that the cursor comes to. The line ends in both are counted. -/
theorem next?_split {cursor after : Cursor} {token : Token}
    (h : cursor.next? = some (token, after)) :
    ∃ gap text, cursor.rest = gap ++ (text ++ after.rest) ∧ (∀ c ∈ gap, isBlank c = true) ∧
      token.Occupies text after.rest ∧ token.line = cursor.line + lineEnds gap ∧
      after.line = cursor.line + lineEnds gap + lineEnds text := by
  have parts := List.takeWhile_append_dropWhile (p := isBlank) (l := cursor.rest)
  rw [next?_eq] at h
  split at h
  · cases h
  · rename_i head tail line skipped
    obtain rfl : cursor.line + lineEnds (cursor.rest.takeWhile isBlank) = line :=
      congrArg Cursor.line skipped
    have left : cursor.rest.dropWhile isBlank = head :: tail := congrArg Cursor.rest skipped
    cases h
    obtain ⟨text, split, occupies⟩ := Piece.read_occupies head tail
      (cursor.line + lineEnds (cursor.rest.takeWhile isBlank) : Nat)
    refine ⟨cursor.rest.takeWhile isBlank, text, ?_, fun c mem => List.mem_takeWhile_imp mem,
      occupies, Int.natCast_add _ _, ?_⟩
    · rw [← split, ← left, parts]
    · rw [occupies.lineEnds_eq, String.toList_ofList]

/-- No token is left where all is white space. -/
theorem blank_of_next? {cursor : Cursor} (h : cursor.next? = none) :
    ∀ c ∈ cursor.rest, isBlank c = true := by
  rw [next?_eq] at h
  split at h
  · rename_i skipped
    exact dropWhile_isBlank_eq_nil_iff.mp (congrArg Cursor.rest skipped)
  · cases h

end Cursor

/-! ## Cutting a text -/

/-- A token of a source, with the white space in front of it and the text that it has there. -/
structure Slice where
  gap : List Char
  token : Token
  text : List Char
  deriving DecidableEq, Repr

/-- Slices put together again, in front of what follows them. -/
def weave : List Slice → List Char → List Char
  | [], rest => rest
  | slice :: later, rest => slice.gap ++ (slice.text ++ weave later rest)

/-- `Cut line text slices last`: a text that starts on a line is cut into slices and the white space
behind them. What follows a token would not go on with it. -/
inductive Cut : Nat → List Char → List Slice → List Char → Prop
  /-- Nothing is left but white space. -/
  | blank {line : Nat} {last : List Char} : (∀ c ∈ last, isBlank c = true) → Cut line last [] last
  /-- A token stands behind some white space. -/
  | token {line : Nat} {gap rest last : List Char} {token : Token} {slices : List Slice} :
      (∀ c ∈ gap, isBlank c = true) → token.Spelled → token.line = line + lineEnds gap →
      (∀ c ∈ rest.head?, token.kind.extendedBy c = false) →
      Cut (line + lineEnds gap + lineEnds token.text) rest slices last →
      Cut line (gap ++ (token.text ++ rest)) (⟨gap, token, token.text⟩ :: slices) last
  /-- A string literal goes on to the end of the text. -/
  | unclosed {line : Nat} {gap : List Char} {token : Token} :
      (∀ c ∈ gap, isBlank c = true) → token.Spelled → token.line = line + lineEnds gap →
      token.kind = .stringLiteral →
      Cut line (gap ++ '"' :: token.lexeme.toList) [⟨gap, token, '"' :: token.lexeme.toList⟩] []

/-- Every text is cut into the tokens that are read from it, and white space. -/
theorem exists_cut (input : List Char) (line : Nat) :
    ∃ slices last, Cut line input slices last ∧
      slices.map Slice.token = (⟨input, line⟩ : Cursor).drain.1 := by
  cases next : (⟨input, line⟩ : Cursor).next? with
  | none =>
    rw [Cursor.drain_of_none next]
    exact ⟨[], input, .blank (Cursor.blank_of_next? next), rfl⟩
  | some step =>
    obtain ⟨token, rest, reached⟩ := step
    have shorter := Cursor.next?_length next
    have spelled := Cursor.next?_spelled next
    obtain ⟨gap, text, split, blanks, occupies, own, lines⟩ := Cursor.next?_split next
    dsimp only at split own lines
    rw [Cursor.drain_of_next? next, split]
    subst lines
    cases occupies with
    | whole stops =>
      obtain ⟨slices, last, cut, tokens⟩ :=
        exists_cut rest (line + lineEnds gap + lineEnds token.text)
      exact ⟨_, last, .token blanks spelled own stops cut, congrArg (token :: ·) tokens⟩
    | unclosed kind =>
      rw [List.append_nil, Cursor.drain_of_none rfl]
      exact ⟨_, [], .unclosed blanks spelled own kind, rfl⟩
termination_by input.length
decreasing_by exact shorter

/-! ## What cutting says -/

/-- A slice between the text in front of it and the text behind it. -/
structure Slice.Lies (slice : Slice) (before after : List Char) : Prop where
  gap : ∀ c ∈ slice.gap, isBlank c = true
  spelled : slice.token.Spelled
  /-- Only at the end of a source, and only for a string literal, is the closing quote left out. -/
  text : slice.text = slice.token.text ∨
    slice.token.kind = .stringLiteral ∧ slice.text = '"' :: slice.token.lexeme.toList ∧ after = []
  /-- What follows would not go on with the token. -/
  stops : ∀ c ∈ after.head?, slice.token.kind.extendedBy c = false
  /-- Lines are counted from one. -/
  line : slice.token.line = 1 + lineEnds (before ++ slice.gap)

theorem weave_eq_append (slices : List Slice) (rest : List Char) :
    weave slices rest = weave slices [] ++ rest := by
  induction slices with
  | nil => rfl
  | cons slice slices ih => rw [weave, weave, ih, List.append_assoc, List.append_assoc]

namespace Cut

variable {line : Nat} {source last : List Char} {slices : List Slice}

/-- Slices and white space put together again are the text that was cut. -/
theorem weave_eq (cut : Cut line source slices last) : weave slices last = source := by
  induction cut with
  | blank => rfl
  | token _ _ _ _ _ ih => rw [weave, ih]
  | unclosed => rw [weave, weave, List.append_nil]

theorem last_blank (cut : Cut line source slices last) : ∀ c ∈ last, isBlank c = true := by
  induction cut with
  | blank blanks => exact blanks
  | token _ _ _ _ _ ih => exact ih
  | unclosed => exact fun _ mem => absurd mem List.not_mem_nil

/-- Where a text is cut into some slices and others behind them, the others are what is left of it
behind the first ones. -/
theorem drop {before after : List Slice} (cut : Cut line source (before ++ after) last) :
    Cut (line + lineEnds (weave before [])) (weave after last) after last := by
  induction before generalizing line source with
  | nil =>
    have whole := cut.weave_eq
    rw [List.nil_append] at cut whole
    rw [whole]
    exact cut
  | cons slice before ih =>
    rw [List.cons_append] at cut
    generalize behind : before ++ after = later at cut
    cases cut with
    | @token _ gap _ _ token _ _ _ _ _ rest =>
      subst behind
      have front : line + lineEnds (weave (⟨gap, token, token.text⟩ :: before) []) =
          line + lineEnds gap + lineEnds token.text + lineEnds (weave before []) := by
        rw [weave, lineEnds_append, lineEnds_append, Nat.add_assoc, Nat.add_assoc]
      rw [front]
      exact ih rest
    | unclosed =>
      obtain ⟨rfl, rfl⟩ := List.append_eq_nil_iff.mp behind
      exact .blank fun _ mem => absurd mem List.not_mem_nil

/-- Each slice of a source lies as it should between the others. -/
theorem lies {before after : List Slice} {slice : Slice}
    (cut : Cut 1 source (before ++ slice :: after) last) :
    slice.Lies (weave before []) (weave after last) := by
  have rest := cut.drop
  generalize weave (slice :: after) last = left at rest
  cases rest with
  | token blanks spelled line stops behind =>
    refine ⟨blanks, spelled, .inl rfl, ?_, ?_⟩
    · rw [behind.weave_eq]
      exact stops
    · rw [line, lineEnds_append]
      push_cast
      omega
  | unclosed blanks spelled line kind =>
    refine ⟨blanks, spelled, .inr ⟨kind, rfl, rfl⟩, fun _ mem => (by cases mem), ?_⟩
    rw [line, lineEnds_append]
    push_cast
    omega

end Cut

/-! ## Scanning a text that is cut -/

namespace Grammar

theorem Place.advance_append (place : Place) (text more : List Char) :
    place.advance (text ++ more) = (place.advance text).advance more :=
  List.foldl_append

/-- Tokens of which the grammar admits each one behind the one before it. -/
def Alternates : Expected → List Token → Prop
  | _, [] => True
  | expected, token :: rest =>
    expected.admits token.kind = true ∧ Alternates (.following token.kind) rest

/-- What may stand behind some tokens. -/
def Expected.behind (expected : Expected) (tokens : List Token) : Expected :=
  tokens.foldl (fun _ token => .following token.kind) expected

/-- The text of a token starts with no white space. -/
theorem isSpace_text {token : Token} {rest : List Char} (spelled : token.Spelled)
    (stops : ∀ c ∈ rest.head?, token.kind.extendedBy c = false) :
    ∀ c ∈ (token.text ++ rest).head?, isSpace c = false := by
  obtain ⟨head, tail, text, blank, -⟩ := Piece.read_text spelled stops
  intro c mem
  rw [Token.text, text] at mem
  cases mem
  exact isSpace_of_isBlank blank

end Grammar

section

open Grammar

/-- Scanning a tidy text goes over the slices in front of others as far as the grammar admits their
tokens, and goes on with the others. -/
theorem Cut.scan {line : Nat} {source last : List Char} {before after : List Slice}
    (cut : Cut line source (before ++ after) last) (tidy : Tidy source) {expected : Expected}
    (alternates : Alternates expected (before.map Slice.token)) {place : Place}
    (starts : place.line = line) :
    Tidy (weave after last) ∧ ∃ lexemes, lexemes.map Lexeme.toToken = before.map Slice.token ∧
      Grammar.scan expected place source =
        (lexemes ++ (Grammar.scan (expected.behind (before.map Slice.token))
            (place.advance (weave before [])) (weave after last)).1,
          (Grammar.scan (expected.behind (before.map Slice.token))
            (place.advance (weave before [])) (weave after last)).2) := by
  induction before generalizing line source expected place with
  | nil =>
    have whole := cut.weave_eq
    rw [List.nil_append] at whole
    rw [whole]
    exact ⟨tidy, [], rfl, rfl⟩
  | cons slice before ih =>
    rw [List.cons_append] at cut
    generalize behind : before ++ after = later at cut
    cases cut with
    | @token _ gap rest _ token _ blanks spelled atLine stops cut =>
      subst behind
      obtain ⟨spaces, tidy⟩ := tidy.spaces blanks
      obtain ⟨admits, alternates⟩ := alternates
      have reached : ((place.advance gap).advance token.text).line =
          line + lineEnds gap + lineEnds token.text := by
        rw [Place.advance_line, Place.advance_line, starts]
      obtain ⟨tidyRest, lexemes, tokens, scanned⟩ := ih cut ((tidy_text spelled).mp tidy) alternates
        reached
      have read : (⟨token.kind, String.ofList token.text, place.advance gap⟩ : Lexeme).toToken =
          token := by
        rw [Token.text, toToken_text, String.ofList_toList, Place.advance_line, starts,
          Int.natCast_add, ← atLine]
      have front : place.advance (weave (⟨gap, token, token.text⟩ :: before) []) =
          ((place.advance gap).advance token.text).advance (weave before []) := by
        rw [weave, Place.advance_append, Place.advance_append]
      refine ⟨tidyRest, _ :: lexemes, congrArg₂ List.cons read tokens, ?_⟩
      rw [scan_text spaces (isSpace_text spelled stops) (Terminal.first?_text spelled admits stops),
        front]
      rw [scanned]
      rfl
    | unclosed blanks spelled _ kind =>
      rw [Token.Spelled, kind] at spelled
      exact absurd (tidy.spaces blanks).2 (not_tidy_open spelled)

/-- In a tidy text, the text of a slice is that of its token. -/
theorem Slice.Lies.text_eq {slice : Slice} {before after : List Char}
    (lies : slice.Lies before after) (tidy : Tidy (slice.text ++ after)) :
    slice.text = slice.token.text := by
  rcases lies.text with text | ⟨kind, text, ends⟩
  · exact text
  · have spelled := lies.spelled
    rw [Token.Spelled, kind] at spelled
    rw [text, ends, List.append_nil] at tidy
    exact absurd tidy (not_tidy_open spelled)

/-- A tidy text is scanned to its end if its tokens alternate between operands and operators. -/
theorem Grammar.exists_scan_of_alternates {expected : Expected} {input : List Char} {place : Place}
    (tidy : Tidy input) (alternates : Alternates expected (⟨input, place.line⟩ : Cursor).drain.1) :
    ∃ lexemes, Grammar.scan expected place input = (lexemes, .finished) := by
  obtain ⟨slices, last, cut, tokens⟩ := exists_cut input place.line
  rw [← tokens] at alternates
  rw [← List.append_nil slices] at cut
  obtain ⟨tidyLast, lexemes, -, scanned⟩ := cut.scan tidy alternates rfl
  have whole : Tidy (last ++ []) := by
    rw [List.append_nil]
    exact tidyLast
  have spaces := (whole.spaces cut.last_blank).1
  rw [weave, scan_spaces spaces] at scanned
  exact ⟨_, scanned⟩

end

/-! ## Characters outside the language -/

/-- A symbol that a source may hold stands at the front of a token. -/
theorem exists_kind_of_mem_symbols {c : Char} (symbol : c ∈ symbols) :
    ∃ kind, Token.Kind.symbol? kind = some [c] := by
  simp only [symbols, List.mem_cons, List.not_mem_nil, or_false] at symbol
  rcases symbol with rfl | rfl | rfl | rfl | rfl | rfl | rfl | rfl | rfl | rfl | rfl | rfl | rfl
  · exact ⟨.minus, rfl⟩
  · exact ⟨.plus, rfl⟩
  · exact ⟨.star, rfl⟩
  · exact ⟨.slash, rfl⟩
  · exact ⟨.leftParen, rfl⟩
  · exact ⟨.rightParen, rfl⟩
  · exact ⟨.leftBrace, rfl⟩
  · exact ⟨.rightBrace, rfl⟩
  · exact ⟨.semicolon, rfl⟩
  · exact ⟨.assignment, rfl⟩
  · exact ⟨.bang, rfl⟩
  · exact ⟨.smaller, rfl⟩
  · exact ⟨.greater, rfl⟩

/-- A character that starts the text of a token other than one of its own is part of the
language. -/
theorem Unknown.kind_of_head {c : Char} (unknown : Unknown c) {kind : Token.Kind}
    {lexeme : List Char} (spells : kind.Spells lexeme)
    (starts : (kind.text lexeme).head? = some c) : kind = .invalidToken := by
  cases kind
  case invalidToken => rfl
  case integerLiteral =>
    have digit := spells.2 c (List.mem_of_head? starts)
    rw [unknown.digit] at digit
    cases digit
  case booleanLiteral | ifWord | identifier =>
    obtain ⟨head, tail, rfl, start, -⟩ := spells.1
    cases starts
    rw [unknown.word] at start
    cases start
  case stringLiteral =>
    cases starts
    cases unknown.quote
  all_goals
    exact absurd (mem_symbols_of_symbol? spells c (List.mem_of_head? starts)) unknown.symbol

/-- A character is outside the language exactly if it is no white space and starts no token but one
of its own. -/
theorem unknown_iff {c : Char} :
    Unknown c ↔ isBlank c = false ∧ ∀ kind lexeme, Token.Kind.Spells kind lexeme →
      (kind.text lexeme).head? = some c → kind = .invalidToken := by
  constructor
  · intro unknown
    exact ⟨unknown.blank, fun kind lexeme => unknown.kind_of_head⟩
  · rintro ⟨blank, alone⟩
    refine ⟨blank, ?_, ?_, ?_, ?_⟩
    · refine Bool.eq_false_iff.mpr fun digit => ?_
      cases alone .integerLiteral [c] ⟨by simp, by simpa using digit⟩ rfl
    · refine Bool.eq_false_iff.mpr fun start => ?_
      have isWord : IsWord [c] := ⟨c, [], rfl, start, by simp⟩
      have own := alone _ [c] (Piece.spells_word isWord)
      rcases Piece.wordKind_cases [c] with kind | kind | kind <;> rw [kind] at own <;> cases own rfl
    · refine Bool.eq_false_iff.mpr fun quote => ?_
      obtain rfl : c = '"' := beq_iff_eq.mp quote
      cases alone .stringLiteral [] (by simp [Token.Kind.Spells]) rfl
    · intro symbol
      obtain ⟨kind, text⟩ := exists_kind_of_mem_symbols symbol
      have starts : (kind.text [c]).head? = some c := by
        cases kind <;> cases text <;> rfl
      obtain rfl := alone kind [c] (Piece.spells_of_symbol? text) starts
      cases text

/-! ## The tokens of a source -/

namespace Token

variable {token : Token}

/-- A word is a token of the kind that words have, unless it stands in a string literal. -/
theorem Spelled.kind_of_isWord (spelled : token.Spelled) (other : token.kind ≠ .stringLiteral)
    (isWord : IsWord token.lexeme.toList) :
    token.kind = Piece.wordKind token.lexeme.toList := by
  obtain ⟨kind, lexeme, line⟩ := token
  obtain ⟨head, tail, text, start, -⟩ := isWord
  have headMem : head ∈ lexeme.toList := by
    rw [text]
    exact List.mem_cons_self
  cases kind
  case booleanLiteral | ifWord | identifier => exact spelled.2.symm
  case stringLiteral => exact absurd rfl other
  case integerLiteral =>
    have digit := spelled.2 head headMem
    rw [isDigit_of_isWordStart start] at digit
    cases digit
  case invalidToken =>
    obtain ⟨c, single, unknown⟩ := spelled
    obtain rfl : head = c := List.mem_singleton.mp (single ▸ headMem)
    cases start.symm.trans unknown.word
  all_goals
    have symbol := (symbols_apart (mem_symbols_of_symbol? spelled head headMem)).2.2.1
    cases start.symm.trans symbol

/-- Of the words, one is a keyword and two are truth values. -/
theorem Spelled.word_iff (spelled : token.Spelled) (other : token.kind ≠ .stringLiteral) :
    (token.kind = .ifWord ↔ token.lexeme = "if") ∧
      (token.kind = .booleanLiteral ↔ token.lexeme = "true" ∨ token.lexeme = "false") := by
  have texts : (token.lexeme = "if" ↔ token.lexeme.toList = ['i', 'f']) ∧
      (token.lexeme = "true" ↔ token.lexeme.toList = ['t', 'r', 'u', 'e']) ∧
      (token.lexeme = "false" ↔ token.lexeme.toList = ['f', 'a', 'l', 's', 'e']) :=
    ⟨String.toList_inj.symm, String.toList_inj.symm, String.toList_inj.symm⟩
  rw [texts.1, texts.2.1, texts.2.2, ← Piece.wordKind_eq_ifWord_iff,
    ← Piece.wordKind_eq_booleanLiteral_iff]
  have own (kind : token.kind = .ifWord ∨ token.kind = .booleanLiteral) :
      Piece.wordKind token.lexeme.toList = token.kind := by
    rcases kind with kind | kind
    all_goals
      rw [Spelled, kind] at spelled
      rw [kind]
      exact spelled.2
  have word (keyword : token.lexeme.toList = ['i', 'f'] ∨
      token.lexeme.toList = ['t', 'r', 'u', 'e'] ∨
      token.lexeme.toList = ['f', 'a', 'l', 's', 'e']) :
      token.kind = Piece.wordKind token.lexeme.toList :=
    spelled.kind_of_isWord other (isWord_of_keyword keyword)
  constructor
  · constructor
    · intro kind
      rw [own (.inl kind), kind]
    · intro keyword
      rw [word (.inl (Piece.wordKind_eq_ifWord_iff.mp keyword)), keyword]
  · constructor
    · intro kind
      rw [own (.inr kind), kind]
    · intro truth
      rw [word (.inr (Piece.wordKind_eq_booleanLiteral_iff.mp truth)), truth]

/-- A token of a character outside the language is that character. -/
theorem Spelled.invalid_iff (spelled : token.Spelled) :
    token.kind = .invalidToken ↔ ∃ c, token.text = [c] ∧ Unknown c := by
  constructor
  · intro kind
    rw [Spelled, kind] at spelled
    obtain ⟨c, lexeme, unknown⟩ := spelled
    refine ⟨c, ?_, unknown⟩
    rw [text, kind]
    exact lexeme
  · rintro ⟨c, text, unknown⟩
    exact unknown.kind_of_head spelled (by rw [Token.text] at text; rw [text]; rfl)

end Token

/-- The tokens of a source and the white space between them are the source: nothing is left out,
doubled or moved. -/
theorem tokenize_partition (source : String) :
    ∃ slices last,
      weave slices last = source.toList ∧
      slices.map Slice.token = tokenize source ∧
      (∀ c ∈ last, isBlank c = true) ∧
      (∀ before slice after, slices = before ++ slice :: after →
        slice.Lies (weave before []) (weave after last)) ∧
      ∀ token ∈ tokenize source,
        token.kind ≠ .dot ∧
        (token.kind = .stringLiteral → ∀ c ∈ token.lexeme.toList, isQuote c = false) ∧
        (token.kind ≠ .stringLiteral →
          (token.kind = .ifWord ↔ token.lexeme = "if") ∧
          (token.kind = .booleanLiteral ↔ token.lexeme = "true" ∨ token.lexeme = "false")) ∧
        (token.kind = .invalidToken ↔ ∃ c, token.text = [c] ∧ isBlank c = false ∧
          ∀ kind lexeme, Token.Kind.Spells kind lexeme →
            (kind.text lexeme).head? = some c → kind = .invalidToken) := by
  obtain ⟨slices, last, cut, tokens⟩ := exists_cut source.toList 1
  refine ⟨slices, last, cut.weave_eq, tokens, cut.last_blank, ?_, ?_⟩
  · rintro before slice after rfl
    exact cut.lies
  · intro token mem
    have spelled := tokenize_spelled source token mem
    refine ⟨?_, ?_, spelled.word_iff, ?_⟩
    · intro kind
      rw [Token.Spelled, kind] at spelled
      cases spelled
    · intro kind
      rw [Token.Spelled, kind] at spelled
      exact spelled
    · rw [spelled.invalid_iff]
      simp only [unknown_iff]

end Abacus
