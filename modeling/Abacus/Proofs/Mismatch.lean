import Abacus.Proofs.Acceptance
import Abacus.Proofs.Stopping

/-!
# Both parsers stop at one token

The grammar is read lexeme by lexeme, each one found with an eye on what may stand there. So around
an error its lexemes are not the tokens of the source: an inequality sign in place of an operand is
a negation and an equals sign that fits nothing, and a word that starts like a truth value is that
truth value and a rest. But each token before the error is one of its lexemes, and it does not get
over the token in error, so the place where it does not go on lies within the text of that token.

Results:
1. `State.missesWithin`: behind shifted lexemes, scanning does not get over a token out of place.
2. `exists_abreast`: up to a token out of place, the lexemes are the tokens, and are shifted.
3. `exists_mismatch`: where descent finds a token out of place, the grammar is mismatched.
4. `reference_mismatch_iff`: in tidy sources, either both are in error or neither is, and at one
   token.
-/

namespace Abacus

open Text

namespace Grammar

/-! ## Mismatches behind shifted lexemes -/

/-- The place that a mismatch points at. -/
def Mismatch.place : Mismatch → Place
  | .misplaced lexeme => lexeme.place
  | .ended place => place
  | .unknown _ place => place

/-- What is wrong with what was scanned behind the lexemes that were shifted, if anything but its
end is. -/
def State.mismatch? (state : State) (scanned : List Lexeme × Ending) : Option Mismatch :=
  match scanned.1.foldlM State.shift state, scanned.2 with
  | .error lexeme, _ => some (.misplaced lexeme)
  | .ok _, .misplaced lexeme => some (.misplaced lexeme)
  | .ok _, .unknown c place => some (.unknown c place)
  | .ok _, .finished => none

theorem State.mismatch?_ne_ended {state : State} {scanned : List Lexeme × Ending}
    {mismatch : Mismatch} (h : state.mismatch? scanned = some mismatch) (place : Place) :
    mismatch ≠ .ended place := by
  rintro rfl
  unfold mismatch? at h
  split at h <;> cases h

/-- A source is mismatched where what was scanned behind shifted lexemes is. -/
theorem parseTree_of_mismatch? {source : String} {before : List Lexeme} {state : State}
    {scanned : List Lexeme × Ending} {mismatch : Mismatch}
    (split : scan .operand {} source.toList = (before ++ scanned.1, scanned.2))
    (shifted : before.foldlM State.shift (.expecting []) = .ok state)
    (wrong : state.mismatch? scanned = some mismatch) : parseTree source = .error mismatch := by
  have whole : (before ++ scanned.1).foldlM State.shift (.expecting []) =
      scanned.1.foldlM State.shift state := by
    rw [List.foldlM_append, shifted]
    rfl
  rw [parseTree, split]
  unfold State.mismatch? at wrong
  split at wrong
  · rename_i lexeme _ run
    cases wrong
    rw [parseLexemes, whole, run]
  · rename_i last lexeme run ending
    cases wrong
    rw [parseLexemes_of_shifts _ (whole.trans run), ending, State.outcome]
  · rename_i last c place run ending
    cases wrong
    rw [parseLexemes_of_shifts _ (whole.trans run), ending, State.outcome]
  · cases wrong

/-- A source that ends behind shifted lexemes, but inside a parenthesis or in front of an operand,
is mismatched at its end. -/
theorem parseTree_of_ended {source : String} {lexemes : List Lexeme} {state : State}
    (scanned : scan .operand {} source.toList = (lexemes, .finished))
    (shifted : lexemes.foldlM State.shift (.expecting []) = .ok state)
    (unfinished : state.progress ≠ .complete 0) :
    ∃ place, parseTree source = .error (.ended place) := by
  have none : state.finish? = none := by
    cases finished : state.finish? with
    | none => rfl
    | some tree => exact absurd (State.finish?_isSome_iff.mp ⟨tree, finished⟩) unfinished
  rw [parseTree, scanned, parseLexemes_of_shifts _ shifted, State.outcome_of_unfinished none]
  exact ⟨_, rfl⟩

/-- Behind shifted lexemes, scanning a text leads to a mismatch at a place. -/
def State.Misses (state : State) (scanned : List Lexeme × Ending) (place : Place) : Prop :=
  ∃ mismatch, state.mismatch? scanned = some mismatch ∧ mismatch.place = place

section

variable {expected : Expected} {place : Place} {blanks text rest : List Char} {state : State}

/-- Where no terminal that may stand there fits, there is a mismatch. -/
theorem State.misses_unfound (spaces : ∀ c ∈ blanks, isSpace c = true) (nonempty : text ≠ [])
    (starts : ∀ c ∈ text.head?, isSpace c = false)
    (unfound : Terminal.first? expected.terminals text = none) (state : State) :
    state.Misses (scan expected place (blanks ++ text)) (place.advance blanks) := by
  obtain ⟨taken, left⟩ := Piece.takeWhile_run spaces starts
  obtain ⟨c, tail, rfl⟩ := List.exists_cons_of_ne_nil nonempty
  cases other : Terminal.first? Terminal.all (c :: tail) with
  | some parts =>
    obtain ⟨kind, own, rest⟩ := parts
    rw [scan_unfound left unfound other, taken]
    exact ⟨_, rfl, rfl⟩
  | none =>
    rw [scan_unknown left unfound other, taken]
    exact ⟨_, rfl, rfl⟩

theorem State.misses_here (nonempty : text ≠ []) (starts : ∀ c ∈ text.head?, isSpace c = false)
    (unfound : Terminal.first? expected.terminals text = none) (state : State) :
    state.Misses (scan expected place text) place :=
  @State.misses_unfound expected place [] text (List.forall_mem_nil _) nonempty starts unfound state

/-- A mismatch behind a lexeme that can be shifted. -/
theorem State.misses_behind {kind : Token.Kind} {next : State} {there : Place}
    (spaces : ∀ c ∈ blanks, isSpace c = true)
    (starts : ∀ c ∈ (text ++ rest).head?, isSpace c = false)
    (found : Terminal.first? expected.terminals (text ++ rest) = some (kind, text, rest))
    (shifted : state.shift ⟨kind, String.ofList text, place.advance blanks⟩ = .ok next)
    (misses : next.Misses (scan (.following kind) ((place.advance blanks).advance text) rest)
      there) :
    state.Misses (scan expected place (blanks ++ (text ++ rest))) there := by
  obtain ⟨mismatch, wrong, same⟩ := misses
  refine ⟨mismatch, ?_, same⟩
  rw [scan_text spaces starts found]
  unfold mismatch? at wrong ⊢
  rw [List.foldlM_cons, shifted]
  exact wrong

/-- A lexeme that is found but cannot be shifted is a mismatch. -/
theorem State.misses_shift {kind : Token.Kind} (spaces : ∀ c ∈ blanks, isSpace c = true)
    (starts : ∀ c ∈ (text ++ rest).head?, isSpace c = false)
    (found : Terminal.first? expected.terminals (text ++ rest) = some (kind, text, rest))
    (refused : state.shift ⟨kind, String.ofList text, place.advance blanks⟩ =
      .error ⟨kind, String.ofList text, place.advance blanks⟩) :
    state.Misses (scan expected place (blanks ++ (text ++ rest))) (place.advance blanks) := by
  refine ⟨.misplaced ⟨kind, String.ofList text, place.advance blanks⟩, ?_, rfl⟩
  rw [scan_text spaces starts found, mismatch?, List.foldlM_cons, refused]
  rfl

end

/-! ## Terminals that do not fit -/

namespace Terminal

theorem first?_eq_none {terminals : List Terminal} {input : List Char}
    (none : ∀ terminal ∈ terminals, terminal.pattern.match? input = none) :
    first? terminals input = .none := by
  refine List.findSome?_eq_none_iff.mpr fun terminal mem => ?_
  rw [none terminal mem]
  rfl

/-- Where an operator is expected, everything starts with a symbol. -/
theorem first?_operator_of_not_mem {c : Char} (other : c ∉ symbols) (tail : List Char) :
    first? Expected.operator.terminals (c :: tail) = none := by
  refine first?_eq_none fun terminal mem => ?_
  obtain ⟨known, admits⟩ := List.mem_filter.mp mem
  rcases mem_all_cases known with ⟨head, own, pattern, spells, text, -⟩ | ⟨-, kind⟩ | ⟨-, kind⟩
  · rw [pattern]
    refine Pattern.match?_exact_of_ne ?_ own tail
    rintro rfl
    exact other (symbol_of_admits admits spells text)
  · rw [kind] at admits
    cases admits
  · rw [kind] at admits
    cases admits

/-- Where an operand is expected, what is no symbol, number or string is a truth value. -/
theorem first?_operand_of_not_mem {c : Char} {tail : List Char} (other : c ∉ symbols)
    (digit : c.isDigit = false) (quote : isQuote c = false)
    (untrue : ∀ word, Piece.wordKind word = .booleanLiteral → ¬word <+: c :: tail) :
    first? Expected.operand.terminals (c :: tail) = none := by
  refine first?_eq_none fun terminal mem => ?_
  obtain ⟨known, admits⟩ := List.mem_filter.mp mem
  rcases mem_all_cases known with ⟨head, own, pattern, spells, text, number⟩ | ⟨pattern, -⟩ |
    ⟨pattern, -⟩
  · rw [pattern]
    by_cases truth : terminal.kind = .booleanLiteral
    · rw [truth] at spells
      rw [Pattern.match?, if_neg]
      exact fun starts => untrue _ spells.2 (List.isPrefixOf_iff_prefix.mp starts)
    · refine Pattern.match?_exact_of_ne ?_ own tail
      rintro rfl
      obtain ⟨kind, _⟩ := terminal
      have symbol : kind.symbol? = some (head :: own) := by
        cases kind <;> cases admits
        case integerLiteral.refl => exact absurd rfl number
        case booleanLiteral.refl => exact absurd rfl truth
        case stringLiteral.refl =>
          have longer := congrArg List.length (List.cons.inj text).2
          rw [List.length_append, List.length_cons] at longer
          omega
        all_goals exact spells
      exact other (mem_symbols_of_symbol? symbol head List.mem_cons_self)
  · rw [pattern, Pattern.match?, List.takeWhile_cons_of_neg (by simp [digit])]
  · rw [pattern]
    have differs : c ≠ '"' := by
      rintro rfl
      cases quote
    simp [Pattern.match?, differs]

/-- An equality or inequality is not found where its second sign is missing. -/
theorem first?_operator_of_alone {c : Char} (sign : c = '!' ∨ c = '=') {rest : List Char}
    (alone : ∀ next ∈ rest.head?, (next == '=') = false) :
    first? Expected.operator.terminals (c :: rest) = none := by
  refine first?_eq_none ?_
  show ∀ terminal ∈ ([⟨.equals, .exact '=' ['=']⟩, ⟨.bangEquals, .exact '!' ['=']⟩,
    ⟨.greaterEquals, .exact '>' ['=']⟩, ⟨.smallerEquals, .exact '<' ['=']⟩,
    ⟨.greater, .exact '>' []⟩, ⟨.smaller, .exact '<' []⟩, ⟨.minus, .exact '-' []⟩,
    ⟨.plus, .exact '+' []⟩, ⟨.star, .exact '*' []⟩, ⟨.slash, .exact '/' []⟩,
    ⟨.rightParen, .exact ')' []⟩] : List Terminal), _
  simp only [List.forall_mem_cons]
  rcases sign with rfl | rfl
  · exact ⟨rfl, Pattern.match?_pair_of_alone alone, rfl, rfl, rfl, rfl, rfl, rfl, rfl, rfl, rfl,
      List.forall_mem_nil _⟩
  · exact ⟨Pattern.match?_pair_of_alone alone, rfl, rfl, rfl, rfl, rfl, rfl, rfl, rfl, rfl, rfl,
      List.forall_mem_nil _⟩

end Terminal

/-! ## Tokens out of place -/

/-- Behind shifted lexemes and some white space, scanning does not get over a text: it leads to a
mismatch within it, on the line where it starts. -/
def State.MissesWithin (state : State) (place : Place) (gap text rest : List Char) : Prop :=
  ∃ taken left, text = taken ++ left ∧ left ≠ [] ∧ lineEnds taken = 0 ∧
    state.Misses (scan state.progress.expected place (gap ++ (text ++ rest)))
      (place.advance (gap ++ taken))

section

variable {token : Token} {gap rest : List Char} {place : Place} {state : State}

/-- There is a mismatch in front of a text where no terminal that may stand there fits. -/
theorem State.missesWithin_unfound (spelled : token.Spelled)
    (spaces : ∀ c ∈ gap, isSpace c = true)
    (stops : ∀ c ∈ rest.head?, token.kind.extendedBy c = false)
    (unfound : Terminal.first? state.progress.expected.terminals (token.text ++ rest) = none) :
    state.MissesWithin place gap token.text rest := by
  have nonempty : token.text ≠ [] := Token.Kind.text_ne_nil spelled
  refine ⟨[], token.text, rfl, nonempty, rfl, ?_⟩
  rw [List.append_nil]
  exact State.misses_unfound spaces (by simp [nonempty]) (isSpace_text spelled stops) unfound state

/-- Of an inequality sign in place of an operand, the first character is a negation. -/
theorem State.missesWithin_bangEquals {frames : List Frame} (spelled : token.Spelled)
    (spaces : ∀ c ∈ gap, isSpace c = true) (kind : token.kind = .bangEquals) :
    (State.expecting frames).MissesWithin place gap token.text rest := by
  have text : token.text = ['!', '='] := spelled.text_eq (by rw [kind]; rfl)
  refine ⟨['!'], ['='], text, by simp, rfl, ?_⟩
  have behind := @State.misses_here .operand ((place.advance gap).advance ['!']) ('=' :: rest)
    (by simp) (by rintro c ⟨⟩; rfl) rfl
    (.expecting (.unary ⟨.bang, String.ofList ['!'], place.advance gap⟩ :: frames))
  rw [text, Place.advance_append]
  exact @State.misses_behind .operand place gap ['!'] ('=' :: rest) _ .bang _ _ spaces
    (by rintro c ⟨⟩; rfl) rfl rfl behind

/-- The parts of a word are at its front already if they are at the front of it and of what ends
it. -/
theorem prefix_of_prefix_append {word text : List Char} (parts : ∀ c ∈ word, isWordPart c = true)
    (stops : ∀ c ∈ rest.head?, isWordPart c = false) (starts : word <+: text ++ rest) :
    word <+: text := by
  obtain ⟨more, split⟩ := starts
  rcases List.append_eq_append_iff.mp split with ⟨left, rfl, -⟩ | ⟨left, rfl, behind⟩
  · exact List.prefix_append _ _
  · cases left with
    | nil => exact ⟨[], by simp⟩
    | cons c left =>
      have part := parts c (List.mem_append_right _ List.mem_cons_self)
      cases part.symm.trans (stops c (by rw [behind]; rfl))

/-- A part of a word is neither white space nor a symbol. -/
theorem apart_of_isWordPart {c : Char} (part : isWordPart c = true) :
    isSpace c = false ∧ c ∉ symbols := by
  refine ⟨isSpace_of_isBlank (isBlank_of_isWordPart part), fun symbol => ?_⟩
  cases part.symm.trans (symbols_apart symbol).2.2.2.1

/-- Of a word that starts with a truth value, in place of an operand, the truth value is one, and
nothing that may stand behind it starts like the others of its parts. -/
theorem State.missesWithin_truth {frames : List Frame} {word left : List Char}
    (spaces : ∀ c ∈ gap, isSpace c = true) (truth : Piece.wordKind word = .booleanLiteral)
    (more : left ≠ []) (parts : ∀ c ∈ word ++ left, isWordPart c = true) :
    (State.expecting frames).MissesWithin place gap (word ++ left) rest := by
  obtain ⟨c, tail, rfl⟩ := List.exists_cons_of_ne_nil more
  obtain ⟨notSpace, notSymbol⟩ :=
    apart_of_isWordPart (parts c (List.mem_append_right _ List.mem_cons_self))
  have behind := @State.misses_here .operator ((place.advance gap).advance word)
    (c :: (tail ++ rest)) (by simp) (by rintro d ⟨⟩; exact notSpace)
    (Terminal.first?_operator_of_not_mem notSymbol (tail ++ rest))
    (.complete (.node .boolean [.lexeme ⟨.booleanLiteral, String.ofList word, place.advance gap⟩])
      frames)
  have lines : lineEnds word = 0 := by
    rcases Piece.wordKind_eq_booleanLiteral_iff.mp truth with rfl | rfl
    · rfl
    · rfl
  have starts : ∀ d ∈ (word ++ (c :: tail ++ rest)).head?, isSpace d = false := by
    rcases Piece.wordKind_eq_booleanLiteral_iff.mp truth with rfl | rfl
    · rintro d ⟨⟩
      rfl
    · rintro d ⟨⟩
      rfl
  refine ⟨word, c :: tail, rfl, more, lines, ?_⟩
  rw [List.append_assoc, Place.advance_append]
  exact State.misses_behind spaces starts (Terminal.first?_truth truth _) rfl behind

/-- A word in place of an operand may start with a truth value, which is an operand. -/
theorem State.missesWithin_identifier {frames : List Frame} (spelled : token.Spelled)
    (spaces : ∀ c ∈ gap, isSpace c = true) (kind : token.kind = .identifier)
    (stops : ∀ c ∈ rest.head?, token.kind.extendedBy c = false) :
    (State.expecting frames).MissesWithin place gap token.text rest := by
  have own : IsWord token.text ∧ Piece.wordKind token.text = .identifier := by
    obtain ⟨_, lexeme, line⟩ := token
    cases kind
    exact spelled
  have ends : ∀ c ∈ rest.head?, isWordPart c = false := by
    rw [kind] at stops
    exact stops
  have parts := isWordPart_of_mem own.1
  by_cases truth : ∃ word, Piece.wordKind word = .booleanLiteral ∧ word <+: token.text
  · obtain ⟨word, isTruth, left, split⟩ := truth
    have more : left ≠ [] := by
      rintro rfl
      rw [List.append_nil] at split
      rw [← split, isTruth] at own
      cases own.2
    rw [← split] at parts ⊢
    exact State.missesWithin_truth spaces isTruth more parts
  · refine State.missesWithin_unfound spelled spaces stops ?_
    obtain ⟨c, tail, text, start, -⟩ := own.1
    have part := parts c (by rw [text]; exact List.mem_cons_self)
    rw [text, List.cons_append]
    refine Terminal.first?_operand_of_not_mem (apart_of_isWordPart part).2
      (isDigit_of_isWordStart start) (isQuote_of_isWordPart part) fun word isTruth within => ?_
    rw [← List.cons_append, ← text] at within
    have spells := Piece.spells_truth (Piece.wordKind_eq_booleanLiteral_iff.mp isTruth)
    exact truth ⟨word, isTruth, prefix_of_prefix_append (isWordPart_of_mem spells.1) ends within⟩

/-- Scanning does not get over a token that may not stand in place of an operand. -/
theorem State.missesWithin_expecting {frames : List Frame} {error : ParseError}
    (spelled : token.Spelled) (spaces : ∀ c ∈ gap, isSpace c = true)
    (stops : ∀ c ∈ rest.head?, token.kind.extendedBy c = false) (fits : token.Fits)
    (refused : (State.expecting frames).progress.step token = .refused error) :
    (State.expecting frames).MissesWithin place gap token.text rest := by
  cases kind : token.kind
  case integerLiteral =>
    have passed := @Progress.step_literal token (Frame.opened frames) _
      (Token.literal?_of_integer kind) (Token.unfit?_eq_none_iff.mpr fits)
    cases passed.symm.trans refused
  case bang | minus | leftParen | booleanLiteral | stringLiteral =>
    rw [State.progress, Progress.step, kind] at refused
    cases refused
  case dot | endOfFile =>
    rw [Token.Spelled, kind] at spelled
    cases spelled
  case bangEquals => exact State.missesWithin_bangEquals spelled spaces kind
  case identifier => exact State.missesWithin_identifier spelled spaces kind stops
  case invalidToken =>
    refine State.missesWithin_unfound spelled spaces stops ?_
    obtain ⟨c, text, unknown⟩ := spelled.invalid_iff.mp kind
    rw [text]
    refine Terminal.first?_operand_of_not_mem unknown.symbol unknown.digit unknown.quote ?_
    intro word isTruth starts
    rcases Piece.wordKind_eq_booleanLiteral_iff.mp isTruth with rfl | rfl
    all_goals
      obtain ⟨rfl, -⟩ := List.cons_prefix_cons.mp starts
      cases unknown.word
  case ifWord =>
    refine State.missesWithin_unfound spelled spaces stops ?_
    have text : token.text = ['i', 'f'] := by
      obtain ⟨_, lexeme, line⟩ := token
      cases kind
      exact Piece.wordKind_eq_ifWord_iff.mp spelled.2
    rw [text]
    rfl
  all_goals
    refine State.missesWithin_unfound spelled spaces stops ?_
    rw [spelled.text_eq (by rw [kind]; rfl)]
    rfl

/-- Only operators and punctuation start with symbols. -/
theorem not_mem_symbols_of_spells {kind : Token.Kind} {lexeme : List Char}
    (spells : kind.Spells lexeme) (other : kind.symbol? = none) :
    ∀ c ∈ (kind.text lexeme).head?, c ∉ symbols := by
  intro c starts
  cases kind
  case integerLiteral =>
    intro symbol
    cases (symbols_apart symbol).2.1.symm.trans (spells.2 c (List.mem_of_head? starts))
  case booleanLiteral | ifWord | identifier =>
    exact (apart_of_isWordPart (isWordPart_of_mem spells.1 c (List.mem_of_head? starts))).2
  case stringLiteral =>
    cases starts
    decide
  case invalidToken =>
    obtain ⟨d, rfl, unknown⟩ := spells
    cases starts
    exact unknown.symbol
  case dot | endOfFile => cases spells
  all_goals cases other

/-- Scanning does not get over a token that may not stand behind an operand. -/
theorem State.missesWithin_complete {tree : Tree} {frames : List Frame} {error : ParseError}
    (spelled : token.Spelled) (spaces : ∀ c ∈ gap, isSpace c = true)
    (stops : ∀ c ∈ rest.head?, token.kind.extendedBy c = false)
    (refused : (State.complete tree frames).progress.step token = .refused error) :
    (State.complete tree frames).MissesWithin place gap token.text rest := by
  cases kind : token.kind
  case rightParen =>
    have text : token.text = [')'] := spelled.text_eq (by rw [kind]; rfl)
    cases opened : Frame.opened frames with
    | zero =>
      have starts := isSpace_text spelled stops
      refine ⟨[], token.text, rfl, by simp [text], rfl, ?_⟩
      rw [List.append_nil]
      rw [text] at starts ⊢
      exact @State.misses_shift .operator place gap [')'] rest _ .rightParen spaces starts rfl
        (State.shift_closing_error rfl opened)
    | succ outer =>
      rw [State.progress, opened, Progress.step_closing kind] at refused
      cases refused
  case minus | plus | star | slash | equals | bangEquals | greater | greaterEquals | smaller |
      smallerEquals =>
    obtain ⟨level, isOp⟩ : ∃ level, token.kind.level? = some level := by
      rw [kind]
      exact ⟨_, rfl⟩
    cases (Progress.step_binary isOp).symm.trans refused
  case semicolon | leftParen | leftBrace | rightBrace =>
    refine State.missesWithin_unfound spelled spaces stops ?_
    rw [spelled.text_eq (by rw [kind]; rfl)]
    rfl
  case bang | assignment =>
    refine State.missesWithin_unfound spelled spaces stops ?_
    rw [spelled.text_eq (by rw [kind]; rfl)]
    rw [kind] at stops
    exact Terminal.first?_operator_of_alone (by simp) stops
  all_goals
    refine State.missesWithin_unfound spelled spaces stops ?_
    have head := not_mem_symbols_of_spells spelled (by rw [kind]; rfl)
    obtain ⟨c, tail, text⟩ := List.exists_cons_of_ne_nil (Token.Kind.text_ne_nil spelled)
    rw [Token.text, text, List.cons_append]
    exact Terminal.first?_operator_of_not_mem (head c (by rw [text]; rfl)) (tail ++ rest)

/-- Scanning does not get over a token out of place: it leads to a mismatch within its text. -/
theorem State.missesWithin {error : ParseError} (spelled : token.Spelled)
    (spaces : ∀ c ∈ gap, isSpace c = true)
    (stops : ∀ c ∈ rest.head?, token.kind.extendedBy c = false) (fits : token.Fits)
    (refused : state.progress.step token = .refused error) :
    state.MissesWithin place gap token.text rest := by
  cases state with
  | expecting frames => exact State.missesWithin_expecting spelled spaces stops fits refused
  | complete tree frames => exact State.missesWithin_complete spelled spaces stops refused

end

/-! ## Sources -/

/-- Where a mismatch lies in a source: within the text of a token and on its line, while the parser
of the source stands in front of that token. -/
def Mismatch.Within (mismatch : Mismatch) (source : String) (found : Token) : Prop :=
  ∃ before slice after last, Cut 1 source.toList (before ++ slice :: after) last ∧
    slice.token = found ∧
    (TokenStream.ofSource source).parse.2.pending = found :: after.map Slice.token ∧
    (∃ taken left, slice.text = taken ++ left ∧ left ≠ [] ∧
      mismatch.place = Place.advance {} (weave before slice.gap ++ taken)) ∧
    mismatch.place.line = found.line

/-- Descent and the grammar have gone over the same tokens of a source, and neither gets further:
descent finds a token out of place, and the lexemes before it are shifted. -/
structure Abreast (source : String) (error : SyntaxError) (before after : List Slice)
    (last : List Char) (lexemes : List Lexeme) (state : State) : Prop where
  cut : Cut 1 source.toList (before ++ after) last
  pending : after.map Slice.token = (TokenStream.ofSource source).parse.2.pending
  found : (after.map Slice.token).headD (sourceEnd source) = error.found
  tidy : Tidy (weave after last)
  /-- Scanning goes on with the text of the token. -/
  scanned : ∀ ahead, scan state.progress.expected (Place.advance {} (weave before []))
    (weave after last) = ahead → scan .operand {} source.toList = (lexemes ++ ahead.1, ahead.2)
  shifted : lexemes.foldlM State.shift (.expecting []) = .ok state
  stuck : state.progress.step error.found = .refused (.rejected error)

/-- Up to a token out of place, the lexemes of a tidy source are its tokens, and all of them are
shifted. -/
theorem exists_abreast {source : String} {error : SyntaxError} (tidy : Tidy source.toList)
    (failed : Abacus.parse source = .error (.rejected error))
    (misplaced : error.cause.misplaced = true) :
    ∃ before after last lexemes state, Abreast source error before after last lexemes state := by
  obtain ⟨tokens, split, found, stops⟩ := parse_stopsAt failed misplaced
  obtain ⟨live, refused⟩ := stops 0
  obtain ⟨slices, last, cut, whole⟩ := exists_cut source.toList 1
  have sliced : slices.map Slice.token =
      tokens ++ (TokenStream.ofSource source).parse.2.pending := whole.trans split
  obtain ⟨before, after, rfl, beforeTokens, afterTokens⟩ := List.map_eq_append_iff.mp sliced
  have alternates : Alternates .operand (before.map Slice.token) := by
    rw [beforeTokens]
    exact Progress.alternates_of_live live
  obtain ⟨tidyAfter, lexemes, lexemeTokens, scanned⟩ :=
    @Cut.scan _ _ _ _ _ cut tidy _ alternates {} rfl
  rw [beforeTokens] at lexemeTokens scanned
  rw [← lexemeTokens] at live refused scanned
  obtain ⟨state, shifted, reached⟩ := @State.exists_run (.expecting []) lexemes live
  have expected : Expected.behind .operand (lexemes.map Lexeme.toToken) =
      state.progress.expected := by
    rw [reached]
    exact (Progress.expected_run live).symm
  rw [expected] at scanned
  refine ⟨before, after, last, lexemes, state, cut, afterTokens, ?_, tidyAfter, ?_, shifted, ?_⟩
  · rw [afterTokens, found]
  · rintro ahead rfl
    exact scanned
  · rw [reached]
    exact refused

namespace Abreast

variable {source : String} {error : SyntaxError} {before later : List Slice} {slice : Slice}
  {last : List Char} {lexemes : List Lexeme} {state : State}

/-- If descent is at the end of the source, the grammar is mismatched there. -/
theorem ended (abreast : Abreast source error before [] last lexemes state) :
    error.found.kind = .endOfFile ∧ ∃ place, parseTree source = .error (.ended place) := by
  have ends : error.found.kind = .endOfFile := by
    rw [← abreast.found]
    exact sourceEnd_kind source
  have rest : Tidy (last ++ []) := by
    rw [List.append_nil]
    exact abreast.tidy
  have scanned := abreast.scanned _ (scan_spaces (rest.spaces abreast.cut.last_blank).1 _ _)
  rw [List.append_nil] at scanned
  refine ⟨ends, parseTree_of_ended scanned abreast.shifted ?_⟩
  intro complete
  have stuck := abreast.stuck
  rw [complete, Progress.step_ended ends] at stuck
  cases stuck

/-- If descent is at a token, the grammar is mismatched within the text of that token. -/
theorem within (abreast : Abreast source error before (slice :: later) last lexemes state)
    (fits : ∀ token ∈ tokenize source, token.Fits) :
    error.found.kind ≠ .endOfFile ∧ ∃ mismatch, parseTree source = .error mismatch ∧
      (∀ place, mismatch ≠ .ended place) ∧ mismatch.Within source error.found := by
  obtain ⟨cut, pending, found, tidy, scanned, shifted, stuck⟩ := abreast
  have own : slice.token = error.found := found
  rw [← own] at stuck ⊢
  have lies := cut.lies
  obtain ⟨spaces, tidyText⟩ := tidy.spaces lies.gap
  have text := lies.text_eq tidyText
  have tokenFits : slice.token.Fits := by
    have suffix := (TokenStream.ofSource source).parse_pending
    rw [← pending] at suffix
    exact fits _ (suffix.subset List.mem_cons_self)
  obtain ⟨taken, left, parts, nonempty, lines, mismatch, wrong, place⟩ :=
    @State.missesWithin slice.token slice.gap (weave later last)
      (Place.advance {} (weave before [])) state _ lies.spelled spaces lies.stops tokenFits stuck
  rw [← text] at parts wrong
  refine ⟨lies.spelled.kind_ne_endOfFile, mismatch,
    parseTree_of_mismatch? (scanned _ rfl) shifted wrong, State.mismatch?_ne_ended wrong, ?_⟩
  refine ⟨before, slice, later, last, cut, rfl, pending.symm,
    ⟨taken, left, parts, nonempty, ?_⟩, ?_⟩
  · rw [place, weave_eq_append before slice.gap, List.append_assoc,
      Place.advance_append {} (weave before [])]
  · rw [place, lies.line, Place.advance_line, Place.advance_line, lineEnds_append, lineEnds_append,
      lines]
    push_cast
    omega

end Abreast

/-- Where descent finds a token of a tidy source out of place, the grammar is mismatched as well. It
is so at the end of the source if the token is its end, and within the text of the token if not. -/
theorem exists_mismatch {source : String} {error : SyntaxError} (tidy : Tidy source.toList)
    (fits : ∀ token ∈ tokenize source, token.Fits)
    (failed : Abacus.parse source = .error (.rejected error))
    (misplaced : error.cause.misplaced = true) :
    ∃ mismatch, parseTree source = .error mismatch ∧
      ((error.found.kind = .endOfFile ∧ ∃ place, mismatch = .ended place) ∨
        (error.found.kind ≠ .endOfFile ∧ (∀ place, mismatch ≠ .ended place) ∧
          mismatch.Within source error.found)) := by
  obtain ⟨before, after, last, lexemes, state, abreast⟩ := exists_abreast tidy failed misplaced
  cases after with
  | nil =>
    obtain ⟨ends, place, mismatched⟩ := abreast.ended
    exact ⟨_, mismatched, .inl ⟨ends, place, rfl⟩⟩
  | cons slice later =>
    obtain ⟨other, mismatch, mismatched, notEnded, within⟩ := abreast.within fits
    exact ⟨mismatch, mismatched, .inr ⟨other, notEnded, within⟩⟩

end Grammar

/-- In a tidy source with literals that fit, descent finds a token out of place exactly if the
grammar is mismatched, unless descent is stopped by the nesting limit. The grammar is mismatched at
the end of the source exactly if the token in error is its end. If it is any other token, the
mismatch lies within the text of that token, and on the same line. -/
theorem reference_mismatch_iff {engine : Grammar.Engine} (contract : engine.Contract .expressions)
    (source : String) (tidy : Tidy source.toList) (fits : ∀ token ∈ tokenize source, token.Fits)
    (shallow : ∀ found, parse source ≠ .error (.rejected ⟨.nestedTooDeeply, found⟩)) :
    ((∃ error, parse source = .error (.rejected error) ∧ error.cause.misplaced = true) ↔
      ∃ mismatch, engine.reference source = .error (.mismatch mismatch)) ∧
    ∀ error mismatch, parse source = .error (.rejected error) →
      engine.reference source = .error (.mismatch mismatch) →
      ((∃ place, mismatch = .ended place) ↔ error.found.kind = .endOfFile) ∧
      (error.found.kind ≠ .endOfFile → mismatch.Within source error.found) := by
  simp only [Grammar.Engine.reference_eq_mismatch_iff, contract.parse_eq]
  refine ⟨⟨?_, ?_⟩, ?_⟩
  · rintro ⟨error, failed, misplaced⟩
    obtain ⟨mismatch, mismatched, -⟩ := Grammar.exists_mismatch tidy fits failed misplaced
    exact ⟨mismatch, mismatched⟩
  · rintro ⟨mismatch, mismatched⟩
    cases parsed : parse source with
    | error error =>
      obtain ⟨own, rfl, misplaced⟩ := misplaced_of_parse parsed shallow fits
      exact ⟨own, rfl, misplaced⟩
    | ok expr =>
      obtain ⟨tree, built⟩ := Grammar.exists_parseTree parsed tidy
      cases mismatched.symm.trans built
  · intro error mismatch failed mismatched
    obtain ⟨own, same, misplaced⟩ := misplaced_of_parse failed shallow fits
    cases same
    obtain ⟨found, built, places⟩ := Grammar.exists_mismatch tidy fits failed misplaced
    cases built.symm.trans mismatched
    rcases places with ⟨ends, ended⟩ | ⟨other, notEnded, within⟩
    · exact ⟨iff_of_true ended ends, fun other => absurd ends other⟩
    · exact ⟨iff_of_false (fun ⟨place, ended⟩ => notEnded place ended) other, fun _ => within⟩

/-- Where an operand is missing, an inequality sign is not found as one: the grammar gets past its
first character. -/
theorem reference_mismatch_inequality :
    parse "1 *\n!= 2" = .error (.rejected ⟨.missingExpression, ⟨.bangEquals, "!=", 2⟩⟩) ∧
    Grammar.Engine.shifting.reference "1 *\n!= 2" =
      .error (.mismatch (.unknown '=' ⟨5, 2, 2⟩)) ∧
    Grammar.Mismatch.Within (.unknown '=' ⟨5, 2, 2⟩) "1 *\n!= 2" ⟨.bangEquals, "!=", 2⟩ := by
  have failed : parse "1 *\n!= 2" =
      .error (.rejected ⟨.missingExpression, ⟨.bangEquals, "!=", 2⟩⟩) := by decide +kernel
  have mismatched : Grammar.Engine.shifting.reference "1 *\n!= 2" =
      .error (.mismatch (.unknown '=' ⟨5, 2, 2⟩)) := by decide +kernel
  have shallow : ∀ found, parse "1 *\n!= 2" ≠ .error (.rejected ⟨.nestedTooDeeply, found⟩) := by
    intro found deep
    cases failed.symm.trans deep
  obtain ⟨-, places⟩ := reference_mismatch_iff Grammar.Engine.shifting_contract "1 *\n!= 2"
    (by decide) (by decide +kernel) shallow
  exact ⟨failed, mismatched, (places _ _ failed mismatched).2 (by decide)⟩

end Abacus
