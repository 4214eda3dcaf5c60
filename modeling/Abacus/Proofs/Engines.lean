import Abacus.Proofs.Scanning
import Abacus.Proofs.Shifting

/-!
# All engines parse alike

The lexer of an engine may look for a closing parenthesis where none is open, or not. It is found
there either way, by the lexer or when all terminals are tried, and cannot be taken. Everything else
that the lexer looks for is settled by the contract of engines. So whatever keeps that contract for
the grammar of the language parses as shifting does, and shifting keeps it.

Results:
1. `viable_iff_shifts`: lexemes can be shifted exactly if some sentence starts with them.
2. `Engine.Contract.parse_eq`: an engine that keeps the contract parses as shifting does.
3. `Engine.shifting_contract`: shifting keeps the contract.
-/

namespace Abacus.Grammar

/-! ## Open parentheses -/

/-- How many parentheses are open on a stack. -/
def Frame.opened : List Frame → Nat
  | [] => 0
  | .opening _ :: frames => Frame.opened frames + 1
  | .unary _ :: frames | .binary _ _ _ :: frames => Frame.opened frames

/-- Settling completes no parenthesis. -/
theorem opened_settle (level : Level) (tree : Tree) (frames : List Frame) :
    Frame.opened (settle level tree frames).2 = Frame.opened frames := by
  fun_induction settle level tree frames with
  | case1 _ _ _ ih => exact ih
  | case2 _ _ _ _ _ _ ih => exact ih
  | case3 => rfl
  | case4 => rfl

/-- Settling the loosest level leaves nothing but parentheses on top of the stack. -/
theorem settle_equality_frames (tree : Tree) (frames : List Frame) :
    (settle .equality tree frames).2 = [] ∨
      ∃ paren outer, (settle .equality tree frames).2 = .opening paren :: outer := by
  fun_induction settle .equality tree frames with
  | case1 _ _ _ ih => exact ih
  | case2 _ _ _ _ _ _ ih => exact ih
  -- No operator on the stack is looser than equality, so settling does not stop at one.
  | case3 _ _ _ _ _ looser => exact absurd (Nat.zero_le _) looser
  | case4 tree frames notUnary notBinary =>
    cases frames with
    | nil => exact .inl rfl
    | cons frame outer =>
      cases frame with
      | opening paren => exact .inr ⟨paren, outer, rfl⟩
      | unary op => exact absurd rfl (notUnary _ _)
      | binary left op own => exact absurd rfl (notBinary _ _ _ _)

namespace State

variable {tree : Tree} {frames : List Frame} {lexeme : Lexeme}

/-- With nothing open, an operand completes a tree. -/
theorem exists_finish (outermost : Frame.opened frames = 0) :
    ∃ whole, (complete tree frames).finish? = some whole := by
  have kept := opened_settle .equality tree frames
  have settled := settle_equality_frames tree frames
  cases done : settle .equality tree frames with
  | mk inner left =>
    rw [done] at kept settled
    rcases settled with rfl | ⟨paren, outer, rfl⟩
    · exact ⟨.node .start [inner], by rw [finish?, done]⟩
    · cases kept.trans outermost

/-- Only with nothing open is a tree complete. -/
theorem exists_of_finish? {state : State} {whole : Tree} (h : state.finish? = some whole) :
    ∃ tree frames, state = .complete tree frames ∧ Frame.opened frames = 0 := by
  cases state with
  | expecting frames => cases h
  | complete operand frames =>
    have kept := opened_settle .equality operand frames
    rw [finish?] at h
    split at h
    · rename_i settled
      rw [settled] at kept
      exact ⟨operand, frames, rfl, kept.symm⟩
    · cases h

/-- A closing parenthesis is shifted if one is open. -/
theorem exists_shift_closing {opened : Nat} (closes : lexeme.kind = .rightParen)
    (inside : Frame.opened frames = opened + 1) :
    ∃ whole outer, (complete tree frames).shift lexeme = .ok (.complete whole outer) ∧
      Frame.opened outer = opened := by
  have settled := settle_equality_frames tree frames
  have kept := opened_settle .equality tree frames
  cases done : settle .equality tree frames with
  | mk inner left =>
    rw [done] at settled kept
    rw [inside] at kept
    rcases settled with rfl | ⟨paren, outer, rfl⟩
    · cases kept
    · exact ⟨_, outer, shift_closing closes done, Nat.succ.inj kept⟩

/-- A closing parenthesis is not shifted if none is open. -/
theorem shift_closing_error (closes : lexeme.kind = .rightParen)
    (outermost : Frame.opened frames = 0) :
    (complete tree frames).shift lexeme = .error lexeme := by
  have settled := settle_equality_frames tree frames
  have kept := opened_settle .equality tree frames
  rw [shift, if_pos closes]
  cases done : settle .equality tree frames with
  | mk inner left =>
    rw [done, outermost] at kept
    rw [done] at settled
    rcases settled with rfl | ⟨paren, outer, rfl⟩
    · rfl
    · cases kept

end State

/-! ## What can be shifted -/

/-- Whether some lexemes complete a tree from a state. -/
def State.Completes (state : State) : Prop :=
  ∃ (more : List Lexeme) (last : State) (tree : Tree),
    more.foldlM State.shift state = .ok last ∧ last.finish? = some tree

theorem State.Completes.cons {state next : State} {lexeme : Lexeme}
    (shifted : state.shift lexeme = .ok next) (completes : next.Completes) : state.Completes := by
  obtain ⟨more, last, tree, run, finished⟩ := completes
  refine ⟨lexeme :: more, last, tree, ?_, finished⟩
  rw [List.foldlM_cons, shifted]
  exact run

/-- Behind an operand, the ends of the open parentheses complete a tree. -/
theorem State.completes_complete {opened : Nat} {tree : Tree} {frames : List Frame}
    (inside : Frame.opened frames = opened) : (complete tree frames).Completes := by
  induction opened generalizing tree frames with
  | zero =>
    obtain ⟨whole, finished⟩ := @State.exists_finish tree frames inside
    exact ⟨[], _, whole, rfl, finished⟩
  | succ opened ih =>
    obtain ⟨inner, outer, shifted, less⟩ :=
      @State.exists_shift_closing tree frames ⟨.rightParen, ")", {}⟩ opened rfl inside
    exact .cons shifted (ih less)

/-- From any state, some lexemes complete a tree. -/
theorem State.completes (state : State) : state.Completes := by
  cases state with
  | complete tree frames => exact State.completes_complete rfl
  | expecting frames =>
    exact .cons (@State.shift_literal frames ⟨.integerLiteral, "0", {}⟩ .integer rfl)
      (State.completes_complete rfl)

/-- What can be shifted in two parts. -/
theorem shifts_append {before lexemes : List Lexeme} {last : State} :
    (before ++ lexemes).foldlM State.shift (.expecting []) = .ok last ↔
      ∃ state, before.foldlM State.shift (.expecting []) = .ok state ∧
        lexemes.foldlM State.shift state = .ok last := by
  rw [List.foldlM_append]
  cases before.foldlM State.shift (.expecting []) with
  | error found => exact ⟨nofun, fun ⟨_, other, _⟩ => nomatch other⟩
  | ok state => exact ⟨fun run => ⟨state, rfl, run⟩, fun ⟨_, same, run⟩ => Except.ok.inj same ▸ run⟩

/-- Lexemes can be shifted exactly if some sentence starts with them. -/
theorem viable_iff_shifts {lexemes : List Lexeme} :
    expressions.Viable lexemes ↔
      ∃ state, lexemes.foldlM State.shift (.expecting []) = .ok state := by
  constructor
  · rintro ⟨more, tree, sentence⟩
    obtain ⟨last, shifted, -⟩ := shifts_of_sentence sentence
    obtain ⟨state, front, -⟩ := shifts_append.mp shifted
    exact ⟨state, front⟩
  · rintro ⟨state, shifted⟩
    obtain ⟨more, last, tree, run, finished⟩ := state.completes
    exact ⟨more, tree, sentence_iff_shifts.mpr
      ⟨last, shifts_append.mpr ⟨state, shifted, run⟩, finished⟩⟩

/-- To shift one lexeme is one shift. -/
theorem shifts_singleton {state next : State} {lexeme : Lexeme} :
    [lexeme].foldlM State.shift state = .ok next ↔ state.shift lexeme = .ok next := by
  rw [List.foldlM_cons]
  cases state.shift lexeme with
  | error found => exact ⟨nofun, nofun⟩
  | ok next => exact Iff.rfl

/-- Behind lexemes that were shifted, a lexeme can be shifted exactly if some sentence starts with
all of them. -/
theorem viable_concat_iff {before : List Lexeme} {lexeme : Lexeme} {state : State}
    (shifted : before.foldlM State.shift (.expecting []) = .ok state) :
    expressions.Viable (before ++ [lexeme]) ↔ ∃ next, state.shift lexeme = .ok next := by
  rw [viable_iff_shifts]
  constructor
  · rintro ⟨last, run⟩
    obtain ⟨own, same, one⟩ := shifts_append.mp run
    cases shifted.symm.trans same
    exact ⟨last, shifts_singleton.mp one⟩
  · rintro ⟨next, one⟩
    exact ⟨next, shifts_append.mpr ⟨state, shifted, shifts_singleton.mpr one⟩⟩

/-! ## What is expected -/

/-- Where an operand is expected, there may be what can be shifted there. -/
theorem operand_admits_iff {kind : Token.Kind} :
    Expected.operand.admits kind = true ↔
      kind ∈ unaryOperators ∨ kind = .leftParen ∨ ∃ rule, literalNode? kind = some rule := by
  constructor
  · intro admits
    cases kind <;> cases admits <;> simp [unaryOperators, literalNode?]
  · rintro (listed | rfl | ⟨rule, named⟩)
    · have each : ∀ kind ∈ unaryOperators, Expected.operand.admits kind = true := by decide
      exact each kind listed
    · rfl
    · cases kind <;> cases named <;> rfl

/-- Behind an operand, there may be what can be shifted there, and closing parentheses. -/
theorem operator_admits_iff {kind : Token.Kind} :
    Expected.operator.admits kind = true ↔
      kind = .rightParen ∨ ∃ level : Level, kind ∈ level.operators := by
  constructor
  · intro admits
    cases kind <;> first | exact .inl rfl | cases admits; done | skip
    all_goals
      first
      | exact .inr ⟨.equality, by decide⟩
      | exact .inr ⟨.comparison, by decide⟩
      | exact .inr ⟨.term, by decide⟩
      | exact .inr ⟨.factor, by decide⟩
  · rintro (rfl | ⟨level, listed⟩)
    · rfl
    · have each : ∀ kind ∈ level.operators, Expected.operator.admits kind = true := by
        cases level <;> decide
      exact each kind listed

/-- A lexeme that is shifted was expected, and it alone says what is expected behind it. -/
theorem State.expected_of_shift {state next : State} {lexeme : Lexeme}
    (h : state.shift lexeme = .ok next) :
    state.expected.admits lexeme.kind = true ∧ next.expected = .following lexeme.kind := by
  cases state with
  | expecting frames =>
    rcases shift_expecting_cases h with ⟨listed, rfl⟩ | ⟨opens, rfl⟩ | ⟨rule, named, rfl⟩
    · have wants : ∀ kind ∈ unaryOperators, Expected.following kind = .operand := by decide
      exact ⟨operand_admits_iff.mpr (.inl listed), (wants _ listed).symm⟩
    · exact ⟨operand_admits_iff.mpr (.inr (.inl opens)), by rw [opens]; rfl⟩
    · refine ⟨operand_admits_iff.mpr (.inr (.inr ⟨rule, named⟩)), ?_⟩
      cases kind : lexeme.kind <;> rw [kind] at named <;> cases named <;> rfl
  | complete tree frames =>
    rcases shift_complete_cases h with ⟨closes, inner, paren, outer, -, rfl⟩ | ⟨level, listed, rfl⟩
    · exact ⟨operator_admits_iff.mpr (.inl closes), by rw [closes]; rfl⟩
    · have wants : ∀ kind ∈ level.operators, Expected.following kind = .operand := by
        cases level <;> decide
      exact ⟨operator_admits_iff.mpr (.inr ⟨level, listed⟩), (wants _ listed).symm⟩

/-- What is expected can be shifted, but for closing parentheses. -/
theorem State.exists_shift_of_admits {state : State} {lexeme : Lexeme}
    (admits : state.expected.admits lexeme.kind = true) (other : lexeme.kind ≠ .rightParen) :
    ∃ next, state.shift lexeme = .ok next := by
  cases state with
  | expecting frames =>
    rcases operand_admits_iff.mp admits with listed | opens | ⟨rule, named⟩
    · exact ⟨_, shift_unary listed⟩
    · exact ⟨_, shift_opening opens⟩
    · exact ⟨_, shift_literal named⟩
  | complete tree frames =>
    rcases operator_admits_iff.mp admits with closes | ⟨level, listed⟩
    · exact absurd closes other
    · exact ⟨_, shift_binary listed rfl⟩

/-- What is expected behind lexemes that were shifted depends on the last of them only. -/
theorem expected_of_shifts {lexemes : List Lexeme} {state : State}
    (shifted : lexemes.foldlM State.shift (.expecting []) = .ok state) :
    state.expected = .after (lexemes.map Lexeme.kind) := by
  rcases List.eq_nil_or_concat lexemes with rfl | ⟨before, last, rfl⟩
  · cases shifted
    rfl
  · rw [List.concat_eq_append] at shifted ⊢
    obtain ⟨own, -, one⟩ := shifts_append.mp shifted
    rw [(State.expected_of_shift (shifts_singleton.mp one)).2, Expected.after]
    simp

/-- What stands somewhere behind the last of some lexemes is expected behind them. -/
theorem admits_of_follows {before : List Lexeme} {kind : Token.Kind} {state : State}
    (shifted : before.foldlM State.shift (.expecting []) = .ok state)
    (follows : expressions.Follows (before.getLast?.map Lexeme.kind) kind) :
    state.expected.admits kind = true := by
  obtain ⟨front, next, after, tree, sentence, rfl, last⟩ := follows
  obtain ⟨final, run, -⟩ := shifts_of_sentence sentence
  obtain ⟨own, ownShifted, rest⟩ := shifts_append.mp run
  rw [List.foldlM_cons] at rest
  cases shift : own.shift next with
  | error found =>
    rw [shift] at rest
    cases rest
  | ok behind =>
    have same : state.expected = own.expected := by
      rw [expected_of_shifts shifted, expected_of_shifts ownShifted, Expected.after,
        Expected.after, List.getLast?_map, List.getLast?_map, last]
    rw [same]
    exact (State.expected_of_shift shift).1

/-! ## What is looked for -/

namespace Terminal

variable (few many : Token.Kind → Bool) {input text rest : List Char} {kind : Token.Kind}

/-- What is found among many terminals is found among few, if it is one of them. -/
theorem first?_filter (among : ∀ kind, few kind = true → many kind = true)
    {terminals : List Terminal} (own : few kind = true)
    (found : first? (terminals.filter (many ·.kind)) input = some (kind, text, rest)) :
    first? (terminals.filter (few ·.kind)) input = some (kind, text, rest) := by
  induction terminals with
  | nil => cases found
  | cons terminal terminals ih =>
    by_cases isMany : many terminal.kind = true
    · rw [List.filter_cons, if_pos isMany, first?, List.findSome?_cons] at found
      cases fits : terminal.pattern.match? input with
      | some parts =>
        rw [fits] at found
        cases found
        rw [List.filter_cons, if_pos own, first?, List.findSome?_cons, fits]
        rfl
      | none =>
        rw [fits] at found
        by_cases isFew : few terminal.kind = true
        · rw [List.filter_cons, if_pos isFew, first?, List.findSome?_cons, fits]
          exact ih found
        · rw [List.filter_cons, if_neg isFew]
          exact ih found
    · have notFew : ¬ few terminal.kind = true := fun isFew => isMany (among _ isFew)
      rw [List.filter_cons, if_neg isMany] at found
      rw [List.filter_cons, if_neg notFew]
      exact ih found

/-- What is not found among many terminals is not found among few. -/
theorem first?_filter_eq_none (among : ∀ kind, few kind = true → many kind = true)
    {terminals : List Terminal}
    (unfound : first? (terminals.filter (many ·.kind)) input = none) :
    first? (terminals.filter (few ·.kind)) input = none := by
  rw [first?, List.findSome?_eq_none_iff] at unfound ⊢
  intro terminal mem
  obtain ⟨known, isFew⟩ := List.mem_filter.mp mem
  exact unfound terminal (List.mem_filter.mpr ⟨known, among _ isFew⟩)

/-- Only closing parentheses start with a closing parenthesis. -/
theorem eq_rightParen_or_unmatched (rest : List Char) :
    ∀ terminal ∈ Terminal.all,
      terminal.kind = .rightParen ∨ terminal.pattern.match? (')' :: rest) = none := by
  simp only [Terminal.all, List.forall_mem_cons]
  exact ⟨.inr rfl, .inr rfl, .inr rfl, .inr rfl, .inr rfl, .inr rfl, .inr rfl, .inr rfl, .inr rfl,
    .inr rfl, .inr rfl, .inr rfl, .inl trivial, .inr rfl, .inr rfl, .inr rfl, .inr rfl,
    List.forall_mem_nil _⟩

end Terminal

section

variable {engine : Engine} {before : List Lexeme} {state : State}

/-- A lexer that keeps the contract looks for nothing that is not expected. -/
theorem Engine.Contract.admits_expected (contract : engine.Contract expressions)
    (shifted : before.foldlM State.shift (.expecting []) = .ok state) {kind : Token.Kind}
    (admits : engine.admits (before.map Lexeme.kind) kind = true) :
    state.expected.admits kind = true :=
  admits_of_follows shifted
    (contract.follows_of_admits before kind (viable_iff_shifts.mpr ⟨state, shifted⟩) admits)

/-- Among what is looked for, the same is found as among what is expected. Or it is a closing
parenthesis, which is not looked for because it cannot be taken. -/
theorem Engine.Contract.first?_sought (contract : engine.Contract expressions)
    (shifted : before.foldlM State.shift (.expecting []) = .ok state) (input : List Char) :
    Terminal.first? (engine.sought expressions before) input =
      Terminal.first? state.expected.terminals input ∨
    ∃ rest, input = ')' :: rest ∧ Terminal.first? (engine.sought expressions before) input = none ∧
      Terminal.first? state.expected.terminals input = some (.rightParen, [')'], rest) ∧
      ∀ place, ¬ expressions.Viable (before ++ [⟨.rightParen, ")", place⟩]) := by
  have among : ∀ kind, engine.admits (before.map Lexeme.kind) kind = true →
      state.expected.admits kind = true := fun _ => contract.admits_expected shifted
  cases found : Terminal.first? state.expected.terminals input with
  | none => exact .inl (Terminal.first?_filter_eq_none _ _ among found)
  | some parts =>
    obtain ⟨kind, text, rest⟩ := parts
    by_cases admits : engine.admits (before.map Lexeme.kind) kind = true
    · exact .inl (Terminal.first?_filter _ _ among admits found)
    · obtain ⟨lexeme, rfl, spells, expected, rfl, -⟩ := Terminal.first?_spells found
      have unviable : ∀ own place, ¬ expressions.Viable (before ++ [⟨kind, own, place⟩]) :=
        fun own place viable => admits (contract.admits_of_viable before _ viable)
      have closes : kind = .rightParen := by
        by_contra other
        exact unviable "" {} ((viable_concat_iff shifted).mpr
          (State.exists_shift_of_admits expected other))
      subst closes
      cases spells
      refine .inr ⟨rest, rfl, ?_, rfl, unviable ")"⟩
      rw [Terminal.first?, List.findSome?_eq_none_iff]
      intro terminal mem
      obtain ⟨known, own⟩ := List.mem_filter.mp mem
      rcases Terminal.eq_rightParen_or_unmatched rest terminal known with kind | unmatched
      · rw [kind] at own
        exact absurd own admits
      · show (terminal.pattern.match? (')' :: rest)).map _ = none
        rw [unmatched]
        rfl

end

/-! ## Parsing -/

section

variable {before : List Lexeme} {state : State}

/-- Lexemes behind one that cannot be shifted make no difference. -/
theorem parseLexemes_of_refused {lexeme : Lexeme} {scanned : List Lexeme × Ending}
    (shifted : before.foldlM State.shift (.expecting []) = .ok state)
    (refused : ∀ next, state.shift lexeme ≠ .ok next) :
    parseLexemes (before ++ lexeme :: scanned.1, scanned.2) = .error (.misplaced lexeme) := by
  have stops : (before ++ lexeme :: scanned.1).foldlM State.shift (.expecting []) =
      .error lexeme := by
    rw [List.foldlM_append, shifted]
    show (lexeme :: scanned.1).foldlM State.shift state = _
    rw [List.foldlM_cons]
    cases shift : state.shift lexeme with
    | error found =>
      rw [State.eq_of_shift_error shift]
      rfl
    | ok next => exact absurd shift (refused next)
  rw [parseLexemes, stops]

/-- Where all lexemes can be shifted, it depends on what ends them. -/
theorem parseLexemes_of_shifts (ending : Ending)
    (shifted : before.foldlM State.shift (.expecting []) = .ok state) :
    parseLexemes (before, ending) = state.outcome before ending := by
  rw [parseLexemes, shifted]

theorem State.outcome_of_finish {tree : Tree} (finished : state.finish? = some tree) :
    state.outcome before .finished = .ok tree := by
  rw [outcome, finished]

theorem State.outcome_of_unfinished (unfinished : state.finish? = none) :
    state.outcome before .finished = .error (.ended (Engine.lastPlace before)) := by
  rw [outcome, unfinished]

/-- Behind lexemes that were shifted, an engine that keeps the contract does what scanning and
shifting do. -/
theorem Engine.Contract.eq_of_course {engine : Engine} (contract : engine.Contract expressions)
    {place : Place} {input : List Char} {outcome : Except Mismatch Tree}
    (course : engine.Course expressions before place input outcome)
    (shifted : before.foldlM State.shift (.expecting []) = .ok state) :
    outcome = parseLexemes (before ++ (scan state.expected place input).1,
      (scan state.expected place input).2) := by
  induction course generalizing state with
  | @accepted before place input tree skipped sentence =>
    obtain ⟨own, ownShifted, finished⟩ := shifts_of_sentence sentence
    cases shifted.symm.trans ownShifted
    rw [scan_end skipped, List.append_nil, parseLexemes_of_shifts _ shifted,
      State.outcome_of_finish finished]
  | @ended before place input skipped unfinished =>
    have none : state.finish? = none := by
      cases finished : state.finish? with
      | none => rfl
      | some tree =>
        exact absurd (sentence_iff_shifts.mpr ⟨state, shifted, finished⟩) (unfinished tree)
    rw [scan_end skipped, List.append_nil, parseLexemes_of_shifts _ shifted,
      State.outcome_of_unfinished none]
  | @taken before place input c tail text rest kind outcome skipped found viable _ ih =>
    have expected : Terminal.first? state.expected.terminals (c :: tail) =
        some (kind, text, rest) := by
      rcases contract.first?_sought shifted (c :: tail) with same | ⟨_, -, unsought, -, -⟩
      · rw [← same, found]
      · cases unsought.symm.trans found
    obtain ⟨next, one⟩ := (viable_concat_iff shifted).mp viable
    have behind := ih (shifts_append.mpr ⟨state, shifted, shifts_singleton.mpr one⟩)
    rw [(State.expected_of_shift one).2, List.append_assoc] at behind
    rw [scan_found skipped expected]
    exact behind
  | @refused before place input c tail text rest kind skipped found unviable =>
    have expected : Terminal.first? state.expected.terminals (c :: tail) =
        some (kind, text, rest) := by
      rcases contract.first?_sought shifted (c :: tail) with same | ⟨_, -, unsought, -, -⟩
      · rw [← same, found]
      · cases unsought.symm.trans found
    rw [scan_found skipped expected]
    refine (parseLexemes_of_refused shifted fun next one => ?_).symm
    exact unviable ((viable_concat_iff shifted).mpr ⟨next, one⟩)
  | @unsought before place input c tail text rest kind skipped unfound other =>
    rcases contract.first?_sought shifted (c :: tail) with
      same | ⟨behind, starts, -, expected, unviable⟩
    · rw [unfound] at same
      rw [scan_unfound skipped same.symm other, List.append_nil,
        parseLexemes_of_shifts _ shifted]
      rfl
    · -- The closing parenthesis is scanned, but cannot be shifted.
      rw [starts] at other expected
      cases other
      rw [scan_found skipped (starts ▸ expected)]
      refine (parseLexemes_of_refused shifted fun next one => ?_).symm
      exact unviable _ ((viable_concat_iff shifted).mpr ⟨next, one⟩)
  | @unknown before place input c tail skipped unfound other =>
    rcases contract.first?_sought shifted (c :: tail) with same | ⟨behind, starts, -, -, -⟩
    · rw [unfound] at same
      rw [scan_unknown skipped same.symm other, List.append_nil,
        parseLexemes_of_shifts _ shifted]
      rfl
    · rw [starts] at other
      cases other

end

/-- An engine that keeps the contract parses as shifting does. -/
theorem Engine.Contract.parse_eq {engine : Engine} (contract : engine.Contract expressions)
    (source : String) : engine.parse source = parseTree source :=
  contract.eq_of_course (contract.course source) (rfl : [].foldlM State.shift _ = .ok _)

/-! ## The engine that shifts -/

/-- When lexemes have been shifted, what is expected is looked for. -/
theorem Engine.shifting_sought {before : List Lexeme} {state : State}
    (shifted : before.foldlM State.shift (.expecting []) = .ok state) :
    Engine.shifting.sought expressions before = state.expected.terminals := by
  rw [expected_of_shifts shifted]
  rfl

/-- Scanning and shifting go on as an engine should. -/
theorem Engine.shifting_course {before : List Lexeme} {state : State} {place : Place}
    {input : List Char} (shifted : before.foldlM State.shift (.expecting []) = .ok state) :
    Engine.shifting.Course expressions before place input
      (parseLexemes (before ++ (scan state.expected place input).1,
        (scan state.expected place input).2)) := by
  have sought := Engine.shifting_sought shifted
  cases skipped : input.dropWhile isSpace with
  | nil =>
    rw [scan_end skipped, List.append_nil, parseLexemes_of_shifts _ shifted]
    cases finished : state.finish? with
    | some tree =>
      rw [State.outcome_of_finish finished]
      exact .accepted skipped (sentence_iff_shifts.mpr ⟨state, shifted, finished⟩)
    | none =>
      rw [State.outcome_of_unfinished finished]
      refine .ended skipped fun tree sentence => ?_
      obtain ⟨own, ownShifted, complete⟩ := shifts_of_sentence sentence
      cases shifted.symm.trans ownShifted
      cases finished.symm.trans complete
  | cons c tail =>
    cases found : Terminal.first? state.expected.terminals (c :: tail) with
    | some parts =>
      obtain ⟨kind, text, rest⟩ := parts
      rw [scan_found skipped found]
      cases one : state.shift ⟨kind, String.ofList text, next expressions place input⟩ with
      | ok next =>
        refine .taken skipped (sought ▸ found) ((viable_concat_iff shifted).mpr ⟨next, one⟩) ?_
        have course := @Engine.shifting_course _ _
          ((Engine.next expressions place input).advance text) rest
          (shifts_append.mpr ⟨state, shifted, shifts_singleton.mpr one⟩)
        rw [(State.expected_of_shift one).2, List.append_assoc] at course
        exact course
      | error refused =>
        have stuck : ∀ next, state.shift
            ⟨kind, String.ofList text, Engine.next expressions place input⟩ ≠ .ok next := by
          intro next other
          cases one.symm.trans other
        have stops := @parseLexemes_of_refused before state _
          (scan (.following kind) ((Engine.next expressions place input).advance text) rest)
          shifted stuck
        refine stops ▸ .refused skipped (sought ▸ found) fun viable => ?_
        obtain ⟨next, other⟩ := (viable_concat_iff shifted).mp viable
        exact stuck next other
    | none =>
      cases other : Terminal.first? Terminal.all (c :: tail) with
      | some parts =>
        obtain ⟨kind, text, rest⟩ := parts
        rw [scan_unfound skipped found other, List.append_nil, parseLexemes_of_shifts _ shifted]
        exact .unsought skipped (sought ▸ found) other
      | none =>
        rw [scan_unknown skipped found other, List.append_nil, parseLexemes_of_shifts _ shifted]
        exact .unknown skipped (sought ▸ found) other
termination_by input.length
decreasing_by
  have shorter := Terminal.first?_length found
  have suffix := (List.dropWhile_suffix isSpace (l := input)).length_le
  rw [skipped] at suffix
  omega

/-- What can be shifted stands behind the last lexeme in some sentence. -/
theorem follows_of_shift {before : List Lexeme} {state next : State} {lexeme : Lexeme}
    (shifted : before.foldlM State.shift (.expecting []) = .ok state)
    (one : state.shift lexeme = .ok next) :
    expressions.Follows (before.getLast?.map Lexeme.kind) lexeme.kind := by
  obtain ⟨more, tree, sentence⟩ := (viable_concat_iff shifted).mpr ⟨next, one⟩
  rw [List.append_assoc] at sentence
  exact ⟨before, lexeme, more, tree, sentence, rfl, rfl⟩

/-- A closing parenthesis stands behind every operand in some sentence, as there may be a
parenthesis around everything. -/
theorem follows_closing {before : List Lexeme} {tree : Tree} {frames : List Frame}
    (shifted : before.foldlM State.shift (.expecting []) = .ok (.complete tree frames)) :
    expressions.Follows (before.getLast?.map Lexeme.kind) .rightParen := by
  cases opened : Frame.opened frames with
  | succ outer =>
    obtain ⟨inner, rest, one, -⟩ :=
      @State.exists_shift_closing tree frames ⟨.rightParen, ")", {}⟩ outer rfl opened
    exact follows_of_shift shifted one
  | zero =>
    obtain ⟨whole, finished⟩ := @State.exists_finish tree frames opened
    obtain ⟨inner, rfl, parsed⟩ := sentence_iff.mp (sentence_iff_shifts.mpr ⟨_, shifted, finished⟩)
    have around : Parsed .expression _ _ :=
      (@Parsed.grouping ⟨.leftParen, "(", {}⟩ ⟨.rightParen, ")", {}⟩ _ _ rfl parsed rfl).loosen
        (by decide)
    refine ⟨⟨.leftParen, "(", {}⟩ :: before, ⟨.rightParen, ")", {}⟩, [], _,
      sentence_iff.mpr ⟨_, rfl, around⟩, rfl, ?_⟩
    cases before with
    | nil => cases shifted
    | cons first rest => rw [List.getLast?_cons_cons]

/-- Shifting keeps the contract of engines. -/
theorem Engine.shifting_contract : Engine.shifting.Contract expressions where
  admits_of_viable before next viable := by
    obtain ⟨last, run⟩ := viable_iff_shifts.mp viable
    obtain ⟨state, shifted, one⟩ := shifts_append.mp run
    show (Expected.after (before.map Lexeme.kind)).admits next.kind = true
    rw [← expected_of_shifts shifted]
    exact (State.expected_of_shift (shifts_singleton.mp one)).1
  follows_of_admits before kind viable admits := by
    obtain ⟨state, shifted⟩ := viable_iff_shifts.mp viable
    have expected : (Expected.after (before.map Lexeme.kind)).admits kind = true := admits
    rw [← expected_of_shifts shifted] at expected
    by_cases closes : kind = .rightParen
    · subst closes
      cases state with
      | expecting frames => cases expected
      | complete tree frames => exact follows_closing shifted
    · obtain ⟨next, one⟩ :=
        @State.exists_shift_of_admits state ⟨kind, "", {}⟩ expected closes
      exact follows_of_shift shifted one
  course source := Engine.shifting_course (rfl : [].foldlM State.shift _ = .ok _)
  transform_cases callback tree := Tree.walk_cases transformLevels tree
  transform_of_depth_le callback tree := Tree.walk_of_depth_le tree
  transform_ne_ok callback tree result deep done :=
    absurd (Tree.depth_le_of_walk tree done) (Nat.not_le.mpr deep)

end Abacus.Grammar
