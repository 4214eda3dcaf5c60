import Abacus.Proofs.Agreement
import Abacus.Proofs.Progress
import Abacus.Proofs.Partition

/-!
# What the grammar accepts

A source that descent makes an expression of is one that a pass over its tokens goes along with.
Shifting keeps what such a pass keeps, spread over a stack: an operand is expected or complete, and
each open parenthesis has a frame. So the grammar goes along as well, once it has found the lexemes,
and what it finds differs from the tokens only where a string literal is left open or where there is
white space that the grammar does not know.

Results:
1. `State.exists_shift`: where the pass over a token goes on, so does shifting its lexeme.
2. `exists_parseTree`: a tidy source that descent accepts has a parse tree.
3. `reference_ok_iff_tidy`: of the sources that descent accepts, the grammar accepts the tidy ones,
   with the same expression.
-/

namespace Abacus

/-! ## What a pass admits -/

namespace Progress

open Grammar

/-- What may stand where a pass has come to. -/
def expected : Progress → Expected
  | .complete _ => .operator
  | _ => .operand

/-- A number that a pass goes over is a complete operand. -/
theorem step_integer_of_live {opened : Nat} {token : Token} (kind : token.kind = .integerLiteral)
    (live : ((expecting opened).step token).Live) :
    (expecting opened).step token = .complete opened := by
  cases unfit : token.unfit? with
  | none => exact step_literal (Token.literal?_of_integer kind) unfit
  | some error =>
    rw [step_unfit unfit] at live
    exact live.elim

/-- A token that a pass goes over is one that the grammar admits there, and leads to where the
grammar has it lead. -/
theorem admits_of_live {start : Progress} {token : Token} (live : (start.step token).Live) :
    start.expected.admits token.kind = true ∧
      (start.step token).expected = .following token.kind := by
  cases start with
  | accepted => exact live.elim
  | refused error => exact live.elim
  | expecting opened =>
    cases kind : token.kind
    case integerLiteral => exact ⟨rfl, by rw [step_integer_of_live kind live]; rfl⟩
    all_goals
      obtain ⟨_, lexeme, line⟩ := token
      cases kind
      first
      | exact ⟨rfl, rfl⟩
      | exact live.elim
  | complete opened =>
    obtain ⟨kind, lexeme, line⟩ := token
    cases kind
    case rightParen =>
      cases opened with
      | zero => exact live.elim
      | succ opened => exact ⟨rfl, rfl⟩
    all_goals
      first
      | exact ⟨rfl, rfl⟩
      | (cases opened <;> exact live.elim)

/-- The tokens that a pass goes over alternate between operands and operators. -/
theorem alternates_of_live {start : Progress} {tokens : List Token}
    (live : (start.run tokens).Live) : Alternates start.expected tokens := by
  induction tokens generalizing start with
  | nil => trivial
  | cons token rest ih =>
    obtain ⟨admits, following⟩ := admits_of_live (live_of_run live)
    exact ⟨admits, following ▸ ih live⟩

/-- Where a pass has come to, what stands behind the tokens that it went over is expected. -/
theorem expected_run {start : Progress} {tokens : List Token} (live : (start.run tokens).Live) :
    (start.run tokens).expected = start.expected.behind tokens := by
  induction tokens generalizing start with
  | nil => rfl
  | cons token rest ih =>
    have following := (admits_of_live (live_of_run live)).2
    exact (ih live).trans (congrArg (Expected.behind · rest) following)

end Progress

namespace Grammar

/-! ## Shifting and the pass -/

/-- Where a pass over the tokens of the shifted lexemes stands. -/
def State.progress : State → Progress
  | .expecting frames => .expecting (Frame.opened frames)
  | .complete _ frames => .complete (Frame.opened frames)

theorem toToken_kind (lexeme : Lexeme) : lexeme.toToken.kind = lexeme.kind := by
  unfold Lexeme.toToken
  split <;> rfl

/-- Where the pass over a token goes on, so does shifting its lexeme, and both come to the same. -/
theorem State.exists_shift {state : State} {lexeme : Lexeme}
    (live : (state.progress.step lexeme.toToken).Live) :
    ∃ next, state.shift lexeme = .ok next ∧
      next.progress = state.progress.step lexeme.toToken := by
  have admits := (Progress.admits_of_live live).1
  rw [toToken_kind] at admits
  cases state with
  | expecting frames =>
    rcases operand_admits_iff.mp admits with listed | opens | ⟨rule, named⟩
    · have isOp : lexeme.toToken.kind.unaryOp?.isSome = true :=
        toToken_kind lexeme ▸ mem_unaryOperators_iff.mp listed
      exact ⟨_, shift_unary listed, (Progress.step_unary isOp).symm⟩
    · have own : lexeme.toToken.kind = .leftParen := (toToken_kind lexeme).trans opens
      exact ⟨_, shift_opening opens, (Progress.step_opening own).symm⟩
    · refine ⟨_, shift_literal named, ?_⟩
      have own := toToken_kind lexeme
      cases kind : lexeme.kind <;> rw [kind] at named own <;> cases named
      case integerLiteral.refl => exact (Progress.step_integer_of_live own live).symm
      all_goals exact (Progress.step_literal (by rw [Token.literal?, own])
        (Token.unfit?_of_kind (by rw [own]; decide))).symm
  | complete tree frames =>
    rcases operator_admits_iff.mp admits with closes | ⟨level, listed⟩
    · have own : lexeme.toToken.kind = .rightParen := (toToken_kind lexeme).trans closes
      cases opened : Frame.opened frames with
      | zero =>
        rw [State.progress, opened, Progress.step_trailing (by rw [own]; rfl)
          (by rw [own]; decide)] at live
        exact live.elim
      | succ outer =>
        obtain ⟨whole, rest, shifted, less⟩ := State.exists_shift_closing closes opened
        refine ⟨_, shifted, ?_⟩
        rw [State.progress, State.progress, opened, less, Progress.step_closing own]
    · have own : lexeme.toToken.kind.level? = some level :=
        toToken_kind lexeme ▸ Level.mem_operators_iff.mp listed
      refine ⟨_, shift_binary listed rfl, ?_⟩
      rw [State.progress, State.progress, Progress.step_binary own]
      exact congrArg Progress.expecting (opened_settle level tree frames)

/-- Where a pass over some tokens goes on, so does shifting their lexemes. -/
theorem State.exists_run {state : State} {lexemes : List Lexeme}
    (live : (state.progress.run (lexemes.map Lexeme.toToken)).Live) :
    ∃ last, lexemes.foldlM State.shift state = .ok last ∧
      last.progress = state.progress.run (lexemes.map Lexeme.toToken) := by
  -- The pass starts where the state stands, so the induction is over every state at once.
  induction lexemes generalizing state with
  | nil => exact ⟨state, rfl, rfl⟩
  | cons lexeme rest ih =>
    obtain ⟨next, shifted, same⟩ := State.exists_shift (Progress.live_of_run live)
    rw [List.map_cons, Progress.run_cons, ← same] at live ⊢
    obtain ⟨last, run, reached⟩ := ih live
    refine ⟨last, ?_, reached⟩
    rw [List.foldlM_cons, shifted]
    exact run

/-- A tree is complete exactly where a pass over the tokens may end. -/
theorem State.finish?_isSome_iff {state : State} :
    (∃ tree, state.finish? = some tree) ↔ state.progress = .complete 0 := by
  constructor
  · rintro ⟨tree, finished⟩
    obtain ⟨operand, frames, rfl, outermost⟩ := State.exists_of_finish? finished
    exact congrArg Progress.complete outermost
  · intro complete
    cases state with
    | expecting frames => cases complete
    | complete tree frames => exact State.exists_finish (Progress.complete.inj complete)

/-! ## Sources -/

/-- A tidy source that descent accepts has a parse tree. -/
theorem exists_parseTree {source : String} {expr : Expr} (parsed : Abacus.parse source = .ok expr)
    (tidy : Tidy source.toList) : ∃ tree, parseTree source = .ok tree := by
  have passed := run_of_parse parsed
  have live : ((Progress.expecting 0).run (tokenize source)).Live := by
    rw [passed]
    trivial
  have alternates : Alternates .operand (tokenize source) := Progress.alternates_of_live live
  obtain ⟨lexemes, scanned⟩ := @exists_scan_of_alternates _ _ {} tidy alternates
  have tokens : tokenize source = lexemes.map Lexeme.toToken := drain_of_scan scanned
  rw [tokens] at live passed
  obtain ⟨last, run, reached⟩ := @State.exists_run (.expecting []) lexemes live
  obtain ⟨tree, finished⟩ := State.finish?_isSome_iff.mpr (reached.trans passed)
  refine ⟨tree, ?_⟩
  rw [parseTree, scanned, parseLexemes_of_shifts _ run, State.outcome_of_finish finished]

/-- A source with a parse tree is tidy. -/
theorem tidy_of_parseTree {source : String} {tree : Tree} (h : parseTree source = .ok tree) :
    Tidy source.toList := by
  obtain ⟨lexemes, state, scanned, -⟩ := exists_shifts_of_parseTree h
  exact tidy_of_scan scanned

/-- Where descent has an expression and the grammar a parse tree, the expression is the same, unless
the engine gives up on a tree that is deeper than it can go. -/
theorem Engine.Contract.reference_of_parse {engine : Engine}
    (contract : engine.Contract expressions) {source : String} {expr : Expr} {tree : Tree}
    (parsed : Abacus.parse source = .ok expr) (accepted : engine.parse source = .ok tree) :
    engine.reference source = .ok expr ∨
      engine.reach < tree.depth ∧ engine.reference source = .error .exhausted := by
  obtain ⟨own, derives, reference | stop⟩ := contract.reference_cases accepted
  · rcases parse_of_derives derives with ⟨error, -, failed⟩ | ⟨fits, read⟩
    · cases parsed.symm.trans failed
    · cases parsed.symm.trans read
      refine .inl ?_
      rw [reference, outcomeOf, fits]
      rfl
  · exact .inr stop

/-- Of the sources that descent has an expression of, the tidy ones have a parse tree. -/
theorem Engine.Contract.exists_tree_iff_tidy {engine : Engine}
    (contract : engine.Contract expressions) {source : String} {expr : Expr}
    (parsed : Abacus.parse source = .ok expr) :
    (∃ tree, engine.parse source = .ok tree) ↔ Tidy source.toList := by
  rw [contract.parse_eq]
  constructor
  · rintro ⟨tree, built⟩
    exact tidy_of_parseTree built
  · exact exists_parseTree parsed

end Grammar

/-- Of the sources that descent makes an expression of, the grammar makes one of those that are
tidy, unless the engine gives up: all string literals are closed and there is no white space outside
of them that the grammar does not know. The expression is the same. The engine gives up on parse
trees only that are deeper than it can go. -/
theorem reference_ok_iff_tidy {engine : Grammar.Engine} (contract : engine.Contract .expressions)
    {source : String} {expr : Expr} (parsed : parse source = .ok expr) :
    ((∃ other, engine.reference source = .ok other) ↔
      Tidy source.toList ∧ engine.reference source ≠ .error .exhausted) ∧
    (∀ other, engine.reference source = .ok other → other = expr) ∧
    (engine.reference source = .error .exhausted →
      ∃ tree, engine.parse source = .ok tree ∧ engine.reach < tree.depth) := by
  cases built : engine.parse source with
  | error mismatch =>
    have reference := Grammar.Engine.reference_of_mismatch built
    have untidy : ¬ Tidy source.toList := by
      rw [← contract.exists_tree_iff_tidy parsed, built]
      exact fun ⟨_, found⟩ => nomatch found
    rw [reference]
    exact ⟨⟨nofun, fun ⟨tidy, _⟩ => absurd tidy untidy⟩, nofun, nofun⟩
  | ok tree =>
    have tidy := (contract.exists_tree_iff_tidy parsed).mp ⟨tree, built⟩
    rcases contract.reference_of_parse parsed built with reference | ⟨deep, reference⟩
    · rw [reference]
      refine ⟨⟨fun _ => ⟨tidy, nofun⟩, fun _ => ⟨expr, rfl⟩⟩, ?_, nofun⟩
      rintro other ⟨⟩
      rfl
    · rw [reference]
      exact ⟨⟨nofun, fun ⟨_, other⟩ => absurd rfl other⟩, nofun, fun _ => ⟨tree, rfl, deep⟩⟩

/-- A no-break space is part of a string literal to the grammar, but separates nothing. A literal
that is left open it does not accept. -/
theorem reference_no_break_space :
    (∃ expr, parse "1\t!=\x0c-2\r\n == \"\u00a0\"" = .ok expr ∧
      Grammar.Engine.shifting.reference "1\t!=\x0c-2\r\n == \"\u00a0\"" = .ok expr) ∧
    (∃ expr, parse "1\u00a0+ 2" = .ok expr ∧
      ¬∃ other, Grammar.Engine.shifting.reference "1\u00a0+ 2" = .ok other) ∧
    ∃ expr, parse "1 == \"2" = .ok expr ∧
      ¬∃ other, Grammar.Engine.shifting.reference "1 == \"2" = .ok other := by
  have first : ∃ expr, parse "1\t!=\x0c-2\r\n == \"\u00a0\"" = .ok expr :=
    ⟨.binary ⟨.equals, "==", 2⟩
      (.binary ⟨.bangEquals, "!=", 1⟩ (.integer ⟨.integerLiteral, "1", 1⟩ 1)
        (.unary ⟨.minus, "-", 1⟩ (.integer ⟨.integerLiteral, "2", 1⟩ 2)))
      (.string ⟨.stringLiteral, "\u00a0", 2⟩ "\u00a0"), by decide +kernel⟩
  have second : ∃ expr, parse "1\u00a0+ 2" = .ok expr :=
    ⟨.binary ⟨.plus, "+", 1⟩ (.integer ⟨.integerLiteral, "1", 1⟩ 1)
      (.integer ⟨.integerLiteral, "2", 1⟩ 2), by decide +kernel⟩
  have third : ∃ expr, parse "1 == \"2" = .ok expr :=
    ⟨.binary ⟨.equals, "==", 1⟩ (.integer ⟨.integerLiteral, "1", 1⟩ 1)
      (.string ⟨.stringLiteral, "2", 1⟩ "2"), by decide +kernel⟩
  have reached : Grammar.Engine.shifting.reference "1\t!=\x0c-2\r\n == \"\u00a0\"" ≠
      .error .exhausted := by decide +kernel
  obtain ⟨expr, parsed⟩ := first
  obtain ⟨spaced, spacedParsed⟩ := second
  obtain ⟨unclosed, unclosedParsed⟩ := third
  have contract := Grammar.Engine.shifting_contract
  refine ⟨⟨expr, parsed, ?_⟩, ⟨spaced, spacedParsed, ?_⟩, unclosed, unclosedParsed, ?_⟩
  · obtain ⟨accepts, same, -⟩ := reference_ok_iff_tidy contract parsed
    obtain ⟨other, accepted⟩ := accepts.mpr ⟨by decide, reached⟩
    rwa [same other accepted] at accepted
  · rw [(reference_ok_iff_tidy contract spacedParsed).1]
    exact fun ⟨tidy, _⟩ => absurd tidy (by decide)
  · rw [(reference_ok_iff_tidy contract unclosedParsed).1]
    exact fun ⟨tidy, _⟩ => absurd tidy (by decide)

end Abacus
