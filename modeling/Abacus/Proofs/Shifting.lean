import Abacus.Grammar.Shift
import Abacus.Proofs.Productions

/-!
# Shifting finds the sentences

Shifting builds parse trees from operands and a stack of phrases that still want one. On every stack
that is reached, a binary phrase stands above looser ones only, and its left operand is of its own
level. So what is completed is a phrase of the grammar. The other way round, the lexemes of a phrase
are shifted from any stack that takes the phrase, and whatever settles it afterwards finds its tree.

Results:
1. `Parsed.settle`: settling completes a phrase of the level that it settles.
2. `State.Holds.shift` and `State.Holds.run`: no lexeme upsets the order of the stack.
3. `Parsed.run`: the lexemes of a phrase are shifted, and settling finds its tree.
4. `sentence_iff_shifts`: the sentences and their trees are what shifting comes to.
-/

namespace Abacus.Grammar

/-! ## Productions by their terminals -/

theorem isPrefix_iff {kind : Token.Kind} : isPrefix kind = true ↔ kind ∈ unaryOperators := by
  cases kind <;> decide

theorem literalRule?_eq (kind : Token.Kind) : literalRule? kind = literalNode? kind := by
  cases kind <;> rfl

theorem levelOf?_iff {kind : Token.Kind} {level : Level} :
    levelOf? kind = some level ↔ kind ∈ level.operators := by
  cases kind <;> cases level <;> decide

/-! ## One lexeme -/

namespace State

variable {frames outer : List Frame} {tree inner : Tree} {lexeme paren found : Lexeme}
  {next : State}

theorem shift_unary (listed : lexeme.kind ∈ unaryOperators) :
    (expecting frames).shift lexeme = .ok (.expecting (.unary lexeme :: frames)) := by
  rw [shift, if_pos (isPrefix_iff.mpr listed)]

theorem shift_opening (opens : lexeme.kind = .leftParen) :
    (expecting frames).shift lexeme = .ok (.expecting (.opening lexeme :: frames)) := by
  have other : ¬ isPrefix lexeme.kind = true := by
    rw [opens]
    decide
  rw [shift, if_neg other, if_pos opens]

theorem shift_literal {rule : Rule} (named : literalNode? lexeme.kind = some rule) :
    (expecting frames).shift lexeme =
      .ok (.complete (.node rule [.lexeme lexeme]) frames) := by
  have other : ¬ isPrefix lexeme.kind = true ∧ lexeme.kind ≠ .leftParen := by
    cases kind : lexeme.kind <;> rw [kind] at named <;> cases named <;> decide
  rw [shift, if_neg other.1, if_neg other.2, literalRule?_eq, named]

theorem shift_closing (closes : lexeme.kind = .rightParen)
    (settled : settle .equality tree frames = (inner, .opening paren :: outer)) :
    (complete tree frames).shift lexeme =
      .ok (.complete (.node .grouping [.lexeme paren, inner, .lexeme lexeme]) outer) := by
  rw [shift, if_pos closes, settled]

theorem shift_binary {level : Level} (listed : lexeme.kind ∈ level.operators)
    (settled : settle level tree frames = (inner, outer)) :
    (complete tree frames).shift lexeme =
      .ok (.expecting (.binary inner lexeme level :: outer)) := by
  have other : lexeme.kind ≠ .rightParen :=
    Token.Kind.ne_of_level? (Level.mem_operators_iff.mp listed) rfl
  rw [shift, if_neg other, levelOf?_iff.mpr listed]
  dsimp only
  rw [settled]

/-- In place of an operand, what is shifted is a unary operator, an opening parenthesis or a
literal. -/
theorem shift_expecting_cases (h : (expecting frames).shift lexeme = .ok next) :
    (lexeme.kind ∈ unaryOperators ∧ next = .expecting (.unary lexeme :: frames)) ∨
    (lexeme.kind = .leftParen ∧ next = .expecting (.opening lexeme :: frames)) ∨
    ∃ rule, literalNode? lexeme.kind = some rule ∧
      next = .complete (.node rule [.lexeme lexeme]) frames := by
  rw [shift] at h
  split at h
  · rename_i before
    cases h
    exact .inl ⟨isPrefix_iff.mp before, rfl⟩
  split at h
  · rename_i opens
    cases h
    exact .inr (.inl ⟨opens, rfl⟩)
  split at h
  · rename_i rule named
    cases h
    rw [literalRule?_eq] at named
    exact .inr (.inr ⟨rule, named, rfl⟩)
  · cases h

/-- Behind an operand, what is shifted is the end of a parenthesis or an operator of a level. -/
theorem shift_complete_cases (h : (complete tree frames).shift lexeme = .ok next) :
    (lexeme.kind = .rightParen ∧ ∃ inner paren outer,
      settle .equality tree frames = (inner, .opening paren :: outer) ∧
      next = .complete (.node .grouping [.lexeme paren, inner, .lexeme lexeme]) outer) ∨
    ∃ level : Level, lexeme.kind ∈ level.operators ∧
      next = .expecting (.binary (settle level tree frames).1 lexeme level ::
        (settle level tree frames).2) := by
  rw [shift] at h
  split at h
  · rename_i closes
    split at h
    · rename_i inner paren outer settled
      cases h
      exact .inl ⟨closes, inner, paren, outer, settled, rfl⟩
    · cases h
  · split at h
    · rename_i level listed
      cases h
      exact .inr ⟨level, levelOf?_iff.mp listed, rfl⟩
    · cases h

/-- What cannot be shifted is the lexeme in error. -/
theorem eq_of_shift_error {state : State} (h : state.shift lexeme = .error found) :
    found = lexeme := by
  cases state with
  | expecting frames =>
    rw [shift] at h
    split at h
    · cases h
    split at h
    · cases h
    split at h <;> cases h
    rfl
  | complete tree frames =>
    rw [shift] at h
    split at h
    · split at h <;> cases h
      rfl
    · split at h <;> cases h
      rfl

end State

/-! ## Stacks -/

/-- Whether a phrase may be the operand that the top of a stack wants: unary operators take phrases
from their own layer on, binary ones take tighter phrases. -/
def Frame.Takes (frames : List Frame) (phrase : Phrase) : Prop :=
  match frames with
  | .unary _ :: _ => Phrase.unary.tightness ≤ phrase.tightness
  | .binary _ _ own :: _ => own.rank < phrase.tightness
  | _ => True

/-- A stack in order, with its lexemes: operators are what they should be, left operands are of the
level of their operator, and what is below a binary operator takes the phrase that it will be. -/
inductive Frame.Ordered : List Frame → List Lexeme → Prop
  | bottom : Ordered [] []
  | opening {paren : Lexeme} {frames : List Frame} {lexemes : List Lexeme} :
      paren.kind = .leftParen → Ordered frames lexemes →
      Ordered (.opening paren :: frames) (lexemes ++ [paren])
  | unary {op : Lexeme} {frames : List Frame} {lexemes : List Lexeme} :
      op.kind ∈ unaryOperators → Ordered frames lexemes →
      Ordered (.unary op :: frames) (lexemes ++ [op])
  | binary {left : Tree} {op : Lexeme} {level : Level} {frames : List Frame}
      {lexemes own : List Lexeme} :
      Parsed (.level level) own left → op.kind ∈ level.operators →
      Takes frames (.level level) → Ordered frames lexemes →
      Ordered (.binary left op level :: frames) (lexemes ++ (own ++ [op]))

/-- What takes a phrase takes a tighter one. -/
theorem Frame.Takes.tighten {frames : List Frame} {phrase tighter : Phrase}
    (takes : Takes frames phrase) (le : phrase.tightness ≤ tighter.tightness) :
    Takes frames tighter := by
  unfold Takes at takes ⊢
  split at takes
  · exact Nat.le_trans takes le
  · exact Nat.lt_of_lt_of_le takes le
  · trivial

/-- From unary phrases on, a phrase may stand anywhere. -/
theorem Frame.takes_of_tight (frames : List Frame) {phrase : Phrase}
    (tight : Phrase.unary.tightness ≤ phrase.tightness) : Frame.Takes frames phrase := by
  unfold Takes
  split
  · exact tight
  · rename_i own _
    refine Nat.lt_of_lt_of_le ?_ tight
    cases own <;> decide
  · trivial

theorem rank_le_unary (level : Level) : level.rank ≤ Phrase.unary.tightness := by
  cases level <;> decide

/-- A phrase is also a phrase of every looser layer. -/
theorem Parsed.loosen {phrase looser : Phrase} {lexemes : List Lexeme} {tree : Tree}
    (h : Parsed phrase lexemes tree) (le : looser.tightness ≤ phrase.tightness) :
    Parsed looser lexemes tree := by
  rcases Nat.eq_or_lt_of_le le with same | lt
  · rw [Phrase.tightness_injective same]
    exact h
  · obtain ⟨closer, within⟩ := Phrase.tightness_tighter_le lt
    have tighter := h.loosen within
    cases looser with
    | level own => exact .operand tighter
    | unary => exact .primary tighter
    | primary => exact absurd closer (Nat.lt_irrefl _)
termination_by phrase.tightness - looser.tightness

/-- Settling completes a phrase of the level that it settles, and leaves a stack that takes it. No
lexeme is lost, and none moves. -/
theorem Parsed.settle {level : Level} {tree : Tree} {frames : List Frame} {phrase : Phrase}
    {lexemes before : List Lexeme} (parsed : Parsed phrase lexemes tree)
    (ordered : Frame.Ordered frames before) (takes : Frame.Takes frames phrase)
    (le : level.rank ≤ phrase.tightness) :
    ∃ front behind, before ++ lexemes = front ++ behind ∧
      Parsed (.level level) behind (settle level tree frames).1 ∧
      Frame.Ordered (settle level tree frames).2 front ∧
      Frame.Takes (settle level tree frames).2 (.level level) := by
  -- All along, the phrase in hand is one that the top of the stack takes, and one of the level.
  fun_induction Grammar.settle level tree frames generalizing phrase lexemes before with
  | case1 tree op frames ih =>
    cases ordered with
    | unary listed below =>
      have whole := Parsed.unary listed (parsed.loosen takes)
      rw [List.append_assoc]
      exact ih whole below (Frame.takes_of_tight frames (Nat.le_refl _)) (rank_le_unary level)
  | case2 tree left op own frames tighter ih =>
    cases ordered with
    | binary first listed fits below =>
      have second : Parsed own.operand lexemes tree := by
        refine parsed.loosen ?_
        rw [Phrase.tightness_operand]
        exact takes
      rw [List.append_assoc, List.append_assoc]
      exact ih (first.binary listed second) below fits tighter
  | case3 tree left op own frames looser =>
    exact ⟨before, lexemes, rfl, parsed.loosen le, ordered, Nat.lt_of_not_le looser⟩
  | case4 tree frames notUnary notBinary =>
    refine ⟨before, lexemes, rfl, parsed.loosen le, ordered, ?_⟩
    cases ordered with
    | bottom => trivial
    | opening opens below => trivial
    | unary listed below => exact absurd rfl (notUnary _ _)
    | binary first listed fits below => exact absurd rfl (notBinary _ _ _ _)

/-! ## From shifting to phrases -/

/-- A state with its stack in order and, if an operand is complete, with that operand parsed. All of
its lexemes are listed. -/
def State.Holds : State → List Lexeme → Prop
  | .expecting frames, lexemes => Frame.Ordered frames lexemes
  | .complete tree frames, lexemes =>
    ∃ before own, lexemes = before ++ own ∧ Parsed .primary own tree ∧
      Frame.Ordered frames before

namespace State.Holds

/-- Whatever level settles a complete operand, the stack is in order afterwards. -/
theorem settle {tree : Tree} {frames : List Frame} {lexemes : List Lexeme}
    (holds : (State.complete tree frames).Holds lexemes) (level : Level) :
    ∃ front behind, lexemes = front ++ behind ∧
      Parsed (.level level) behind (settle level tree frames).1 ∧
      Frame.Ordered (Grammar.settle level tree frames).2 front ∧
      Frame.Takes (Grammar.settle level tree frames).2 (.level level) := by
  obtain ⟨before, own, rfl, parsed, ordered⟩ := holds
  exact parsed.settle ordered (Frame.takes_of_tight frames (by decide))
    (Nat.le_trans (rank_le_unary level) (by decide))

/-- Shifting a lexeme onto a state in order leaves a state in order, with that lexeme last. -/
theorem shift {state next : State} {lexemes : List Lexeme} {lexeme : Lexeme}
    (holds : state.Holds lexemes) (h : state.shift lexeme = .ok next) :
    next.Holds (lexemes ++ [lexeme]) := by
  cases state with
  | expecting frames =>
    rcases State.shift_expecting_cases h with ⟨listed, rfl⟩ | ⟨opens, rfl⟩ | ⟨rule, named, rfl⟩
    · exact .unary listed holds
    · exact .opening opens holds
    · exact ⟨lexemes, [lexeme], rfl, .literal named, holds⟩
  | complete tree frames =>
    rcases State.shift_complete_cases h with
      ⟨closes, inner, paren, outer, settled, rfl⟩ | ⟨level, listed, rfl⟩
    · obtain ⟨front, behind, rfl, parsed, ordered, -⟩ := holds.settle .equality
      rw [settled] at parsed ordered
      cases ordered with
      | @opening _ _ before opens below =>
        refine ⟨before, paren :: (behind ++ [lexeme]), ?_, .grouping opens parsed closes, below⟩
        simp
    · obtain ⟨front, behind, rfl, parsed, ordered, takes⟩ := holds.settle level
      rw [List.append_assoc]
      exact .binary parsed listed takes ordered

/-- Shifting any number of lexemes leaves a state in order, with those lexemes last. -/
theorem run {state last : State} {before lexemes : List Lexeme} (holds : state.Holds before)
    (h : lexemes.foldlM State.shift state = .ok last) : last.Holds (before ++ lexemes) := by
  induction lexemes generalizing state before with
  | nil =>
    cases h
    rw [List.append_nil]
    exact holds
  | cons lexeme rest ih =>
    rw [List.foldlM_cons] at h
    cases shifted : state.shift lexeme with
    | error found =>
      rw [shifted] at h
      cases h
    | ok next =>
      rw [shifted] at h
      have whole := ih (holds.shift shifted) h
      rwa [List.append_assoc] at whole

/-- What is left when nothing is open is a sentence of all lexemes. -/
theorem finish {state : State} {lexemes : List Lexeme} {tree : Tree}
    (holds : state.Holds lexemes) (h : state.finish? = some tree) :
    expressions.Sentence lexemes tree := by
  cases state with
  | expecting frames => cases h
  | complete operand frames =>
    obtain ⟨front, behind, rfl, parsed, ordered, -⟩ := holds.settle .equality
    rw [State.finish?] at h
    split at h
    · rename_i whole settled
      rw [settled] at parsed ordered
      cases h
      cases ordered
      exact sentence_iff.mpr ⟨whole, rfl, parsed⟩
    · cases h

end State.Holds

/-! ## From phrases to shifting -/

/-- A binary phrase stays in hand on a stack that takes it. -/
theorem settle_of_takes {level : Level} {frames : List Frame} (tree : Tree)
    (takes : Frame.Takes frames (.level level)) : settle level tree frames = (tree, frames) := by
  rcases frames with _ | ⟨_ | _ | ⟨left, op, own⟩, frames⟩
  · rfl
  · rfl
  · have tight : Phrase.unary.tightness ≤ level.rank := takes
    cases level <;> exact absurd tight (by decide)
  · have looser : own.rank < level.rank := takes
    rw [settle, if_neg (Nat.not_le.mpr looser)]

/-- The lexemes of a phrase are shifted from any stack that takes it, and what settles it afterwards
settles its tree. -/
theorem Parsed.run {phrase : Phrase} {lexemes : List Lexeme} {tree : Tree}
    (h : Parsed phrase lexemes tree) (frames : List Frame) (takes : Frame.Takes frames phrase) :
    ∃ own above, lexemes.foldlM State.shift (.expecting frames) = .ok (.complete own above) ∧
      ∀ level : Level, level.rank ≤ phrase.tightness →
        Grammar.settle level own above = Grammar.settle level tree frames := by
  induction h generalizing frames with
  | @literal lexeme rule named =>
    refine ⟨.node rule [.lexeme lexeme], frames, ?_, fun _ _ => rfl⟩
    rw [List.foldlM_cons, State.shift_literal named]
    rfl
  | @grouping opening closing lexemes inner opens _ closes ih =>
    obtain ⟨own, above, shifted, settles⟩ := ih (.opening opening :: frames) trivial
    have settled : Grammar.settle .equality own above = (inner, .opening opening :: frames) :=
      settles .equality (Nat.le_refl _)
    refine ⟨.node .grouping [.lexeme opening, inner, .lexeme closing], frames, ?_, fun _ _ => rfl⟩
    rw [List.foldlM_cons, State.shift_opening opens]
    show (lexemes ++ [closing]).foldlM State.shift (.expecting (.opening opening :: frames)) = _
    rw [List.foldlM_append, shifted]
    show [closing].foldlM State.shift (.complete own above) = _
    rw [List.foldlM_cons, State.shift_closing closes settled]
    rfl
  | primary _ ih =>
    obtain ⟨own, above, shifted, settles⟩ := ih frames (takes.tighten (by decide))
    exact ⟨own, above, shifted, fun level le => settles level (Nat.le_trans le (by decide))⟩
  | @unary op lexemes operand listed _ ih =>
    obtain ⟨own, above, shifted, settles⟩ := ih (.unary op :: frames) (Nat.le_refl _)
    refine ⟨own, above, ?_, settles⟩
    rw [List.foldlM_cons, State.shift_unary listed]
    exact shifted
  | @operand level lexemes tree _ ih =>
    have tighter : (Phrase.level level).tightness ≤ level.operand.tightness := by
      rw [Phrase.tightness_operand]
      exact Nat.le_succ _
    obtain ⟨own, above, shifted, settles⟩ := ih frames (takes.tighten tighter)
    exact ⟨own, above, shifted, fun loose le => settles loose (Nat.le_trans le tighter)⟩
  | @binary level op before after left right _ listed _ first second =>
    obtain ⟨own, above, shifted, settles⟩ := first frames takes
    have settled : Grammar.settle level own above = (left, frames) :=
      (settles level (Nat.le_refl _)).trans (settle_of_takes left takes)
    have wanted : Frame.Takes (.binary left op level :: frames) level.operand := by
      show level.rank < level.operand.tightness
      rw [Phrase.tightness_operand]
      exact Nat.lt_succ_self _
    obtain ⟨operand, higher, behind, completes⟩ := second _ wanted
    refine ⟨operand, higher, ?_, fun loose le => ?_⟩
    · rw [List.foldlM_append, shifted]
      show (op :: after).foldlM State.shift (.complete own above) = _
      rw [List.foldlM_cons, State.shift_binary listed settled]
      exact behind
    · have binds : loose.rank ≤ level.rank := le
      have below : loose.rank ≤ level.operand.tightness := by
        rw [Phrase.tightness_operand]
        exact Nat.le_succ_of_le binds
      rw [completes loose below, Grammar.settle, if_pos binds]

/-! ## Sentences -/

/-- The lexemes of a sentence are shifted, and then its tree is complete. -/
theorem shifts_of_sentence {lexemes : List Lexeme} {tree : Tree}
    (sentence : expressions.Sentence lexemes tree) :
    ∃ state, lexemes.foldlM State.shift (.expecting []) = .ok state ∧
      state.finish? = some tree := by
  obtain ⟨inner, rfl, parsed⟩ := sentence_iff.mp sentence
  obtain ⟨own, above, shifted, settles⟩ := parsed.run [] trivial
  have settled : settle .equality own above = (inner, []) := settles .equality (Nat.le_refl _)
  refine ⟨_, shifted, ?_⟩
  rw [State.finish?, settled]

/-- The sentences and their trees are what shifting comes to. -/
theorem sentence_iff_shifts {lexemes : List Lexeme} {tree : Tree} :
    expressions.Sentence lexemes tree ↔
      ∃ state, lexemes.foldlM State.shift (.expecting []) = .ok state ∧
        state.finish? = some tree := by
  constructor
  · exact shifts_of_sentence
  · rintro ⟨state, shifted, finished⟩
    have start : (State.expecting []).Holds [] := Frame.Ordered.bottom
    exact (start.run shifted).finish finished

end Abacus.Grammar
