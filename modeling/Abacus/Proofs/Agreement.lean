import Abacus.Proofs.Engines
import Abacus.Proofs.Recognition

/-!
# Both parsers agree

A source is parsed in two ways: by descent over its tokens, and by the grammar, where an engine
first builds a parse tree and then calls back for its nodes. Both look at literals from left to
right, though at different times, so where the grammar has a parse tree at all they come to the
same, unless the tree is too deep for the engine.

Results:
1. `Parsed.fold_eq`: the tree of a phrase is folded to what its tokens derive, or to the first
   literal that does not fit.
2. `parse_eq_reference`: a source with a parse tree has the same expression both ways, or both ways
   the first integer literal that does not fit is what is wrong with it, or the engine gives up.
-/

namespace Abacus

/-- The first unfit token of a list, what is wrong with it, and the tokens before it, which fit. -/
theorem Token.exists_of_findSome?_unfit {tokens : List Token} {error : ParseError}
    (h : tokens.findSome? Token.unfit? = some error) :
    ∃ before token after, tokens = before ++ token :: after ∧
      (∀ earlier ∈ before, earlier.Fits) ∧ token.unfit? = some error := by
  obtain ⟨before, token, after, split, unfit, fits⟩ := List.findSome?_eq_some_iff.mp h
  refine ⟨before, token, after, split, ?_, unfit⟩
  intro earlier mem
  exact Token.unfit?_eq_none_iff.mp (fits earlier mem)

namespace Grammar

/-! ## Trees of phrases -/

/-- An expression made of some tokens, unless one of them is unfit: then the first of those is what
is wrong, at its own node. -/
def outcomeOf (tokens : List Token) (expr : Expr) :
    Except (Interruption Fault) (Lexeme ⊕ Expr) :=
  match tokens.findSome? Token.unfit? with
  | some error => .error (.fault .integer (.literal error))
  | none => .ok (.inr expr)

theorem toToken_of_kind {lexeme : Lexeme} (other : lexeme.kind ≠ .stringLiteral) :
    lexeme.toToken = lexeme.token := by
  rw [Lexeme.toToken, if_neg other]

/-- The tree of a literal comes to the expression of its token, unless that is unfit. -/
theorem fold_literal {lexeme : Lexeme} {rule : Rule}
    (named : literalNode? lexeme.kind = some rule) :
    ∃ expr, lexeme.toToken.literal? = some expr ∧
      (Tree.node rule [.lexeme lexeme]).fold makeExpr = outcomeOf [lexeme.toToken] expr := by
  obtain ⟨kind, text, place⟩ := lexeme
  cases kind <;> cases named
  case integerLiteral.refl =>
    refine ⟨_, rfl, ?_⟩
    have read := @readInteger_eq ⟨.integerLiteral, text, place.line⟩ rfl
    have made : makeExpr .integer [.inl ⟨.integerLiteral, text, place⟩] =
        (Token.outcome ⟨.integerLiteral, text, place.line⟩ _).mapError .literal :=
      congrArg (Except.mapError Fault.literal) read
    simp only [Tree.fold, Tree.foldParts, Tree.foldCons, Except.map, Tree.foldNode, made,
      Token.outcome, outcomeOf, List.findSome?_singleton]
    change _ = match (⟨.integerLiteral, text, place.line⟩ : Token).unfit? with
      | some error => _
      | none => _
    cases (⟨.integerLiteral, text, place.line⟩ : Token).unfit? <;> rfl
  case booleanLiteral.refl => exact ⟨_, rfl, rfl⟩
  case stringLiteral.refl => exact ⟨_, rfl, rfl⟩

theorem fold_grouping {opening closing : Lexeme} {inner : Tree} {tokens : List Token} {expr : Expr}
    (openingFits : opening.token.unfit? = none) (closingFits : closing.token.unfit? = none)
    (outcome : inner.fold makeExpr = outcomeOf tokens expr) :
    (Tree.node .grouping [.lexeme opening, inner, .lexeme closing]).fold makeExpr =
      outcomeOf (opening.token :: (tokens ++ [closing.token])) (.grouping opening.token expr) := by
  simp only [Tree.fold, Tree.foldParts, outcome, outcomeOf, List.findSome?_cons, openingFits,
    List.findSome?_append, closingFits, List.findSome?_nil, Option.or_none]
  cases tokens.findSome? Token.unfit? <;> rfl

theorem fold_unary {op : Lexeme} {operand : Tree} {tokens : List Token} {expr : Expr}
    (opFits : op.token.unfit? = none) (outcome : operand.fold makeExpr = outcomeOf tokens expr) :
    (Tree.node .unary [.lexeme op, operand]).fold makeExpr =
      outcomeOf (op.token :: tokens) (.unary op.token expr) := by
  simp only [Tree.fold, Tree.foldParts, outcome, outcomeOf, List.findSome?_cons, opFits]
  cases tokens.findSome? Token.unfit? <;> rfl

theorem fold_binary {op : Lexeme} {first second : Tree} {before after : List Token}
    {left right : Expr} (opFits : op.token.unfit? = none)
    (leftOutcome : first.fold makeExpr = outcomeOf before left)
    (rightOutcome : second.fold makeExpr = outcomeOf after right) :
    (Tree.node .binary [first, .lexeme op, second]).fold makeExpr =
      outcomeOf (before ++ op.token :: after) (.binary op.token left right) := by
  simp only [Tree.fold, Tree.foldParts, leftOutcome, rightOutcome, outcomeOf, List.findSome?_cons,
    List.findSome?_append, opFits]
  cases before.findSome? Token.unfit? with
  | some error => rfl
  | none => cases after.findSome? Token.unfit? <;> rfl

/-- The tree of a phrase is folded to what its tokens derive, or to the first unfit one. -/
theorem Parsed.fold_eq {phrase : Phrase} {lexemes : List Lexeme} {tree : Tree}
    (h : Parsed phrase lexemes tree) :
    ∃ expr, Derives phrase (lexemes.map Lexeme.toToken) expr ∧
      tree.fold makeExpr = outcomeOf (lexemes.map Lexeme.toToken) expr := by
  induction h with
  | literal named =>
    obtain ⟨expr, literal, outcome⟩ := fold_literal named
    exact ⟨expr, .literal literal, outcome⟩
  | @grouping opening closing lexemes inner opens _ closes ih =>
    obtain ⟨expr, derives, outcome⟩ := ih
    have openingKind : opening.token.kind = .leftParen := opens
    have openingFits : opening.token.unfit? = none :=
      Token.unfit?_of_kind (by rw [openingKind]; decide)
    have closingKind : closing.token.kind = .rightParen := closes
    have closingFits : closing.token.unfit? = none :=
      Token.unfit?_of_kind (by rw [closingKind]; decide)
    have tokens : (opening :: (lexemes ++ [closing])).map Lexeme.toToken =
        opening.token :: (lexemes.map Lexeme.toToken ++ [closing.token]) := by
      simp [toToken_of_kind, opens, closes]
    rw [tokens]
    exact ⟨_, .grouping opens derives closes, fold_grouping openingFits closingFits outcome⟩
  | primary _ ih =>
    obtain ⟨expr, derives, outcome⟩ := ih
    exact ⟨expr, .primary derives, outcome⟩
  | unary listed _ ih =>
    obtain ⟨expr, derives, outcome⟩ := ih
    have isOp := mem_unaryOperators_iff.mp listed
    rw [List.map_cons, toToken_of_kind (Token.Kind.ne_of_unaryOp? isOp rfl)]
    exact ⟨_, .unary listed derives, fold_unary (unfit?_of_unaryOp? isOp) outcome⟩
  | operand _ ih =>
    obtain ⟨expr, derives, outcome⟩ := ih
    exact ⟨expr, .operand derives, outcome⟩
  | binary _ listed _ first second =>
    obtain ⟨left, leftDerives, leftOutcome⟩ := first
    obtain ⟨right, rightDerives, rightOutcome⟩ := second
    have isOp := Level.mem_operators_iff.mp listed
    rw [List.map_append, List.map_cons, toToken_of_kind (Token.Kind.ne_of_level? isOp rfl)]
    exact ⟨_, .binary leftDerives listed rightDerives,
      fold_binary (unfit?_of_level? isOp) leftOutcome rightOutcome⟩

/-! ## Trees of sources -/

/-- A source with a parse tree is scanned to its end, and to shift all its lexemes comes to that
tree. -/
theorem exists_shifts_of_parseTree {source : String} {tree : Tree}
    (h : parseTree source = .ok tree) :
    ∃ lexemes state, scan .operand {} source.toList = (lexemes, .finished) ∧
      lexemes.foldlM State.shift (.expecting []) = .ok state ∧ state.finish? = some tree := by
  unfold parseTree at h
  cases scanned : scan .operand {} source.toList with
  | mk lexemes ending =>
    rw [scanned, parseLexemes] at h
    dsimp only at h
    split at h
    · cases h
    · rename_i state run
      cases ending with
      | misplaced lexeme => cases h
      | unknown c place => cases h
      | finished =>
        rw [State.outcome] at h
        split at h
        · rename_i found finished
          cases h
          exact ⟨lexemes, state, rfl, run, finished⟩
        · cases h

/-- The tree of a source is folded to what the tokens of the source derive, or to the first unfit
one. -/
theorem fold_of_parseTree {source : String} {tree : Tree} (h : parseTree source = .ok tree) :
    ∃ expr, Derives .expression (tokenize source) expr ∧
      tree.fold makeExpr = outcomeOf (tokenize source) expr := by
  obtain ⟨lexemes, state, scanned, shifted, finished⟩ := exists_shifts_of_parseTree h
  have sentence := sentence_iff_shifts.mpr ⟨state, shifted, finished⟩
  obtain ⟨inner, rfl, parsed⟩ := sentence_iff.mp sentence
  obtain ⟨expr, derives, outcome⟩ := parsed.fold_eq
  have tokens : lexemes.map Lexeme.toToken = tokenize source := (drain_of_scan scanned).symm
  rw [tokens] at derives outcome
  refine ⟨expr, derives, ?_⟩
  simp only [Tree.fold, Tree.foldParts, outcome, outcomeOf]
  cases (tokenize source).findSome? Token.unfit? <;> rfl

/-- What the grammar makes of a source with a parse tree: what the tokens of the source derive, or
the first unfit one, unless the tree is deeper than the engine can go. -/
theorem Engine.Contract.reference_cases {engine : Engine} (contract : engine.Contract expressions)
    {source : String} {tree : Tree} (accepted : engine.parse source = .ok tree) :
    ∃ expr, Derives .expression (tokenize source) expr ∧
      (engine.reference source = conclude (outcomeOf (tokenize source) expr) ∨
        engine.reach < tree.depth ∧ engine.reference source = .error .exhausted) := by
  obtain ⟨expr, derives, outcome⟩ :=
    fold_of_parseTree ((contract.parse_eq source).symm.trans accepted)
  refine ⟨expr, derives, ?_⟩
  rw [Engine.reference_of_tree accepted, ← outcome]
  by_cases shallow : tree.depth ≤ engine.reach
  · exact .inl (congrArg conclude (contract.transform_of_depth_le makeExpr tree shallow))
  · rcases contract.transform_cases makeExpr tree with stop | folded
    · exact .inr ⟨Nat.lt_of_not_le shallow, congrArg conclude stop⟩
    · exact .inl (congrArg conclude folded)

end Grammar

/-- A source with a parse tree that is not nested too deeply has the same expression both ways if
all its integer literals fit. If not, both ways fail at the first one that does not. The only other
outcome is that the engine gives up on a tree that is deeper than it can go. -/
theorem parse_eq_reference {engine : Grammar.Engine} (contract : engine.Contract .expressions)
    {source : String} {tree : Grammar.Tree} (accepted : engine.parse source = .ok tree)
    (shallow : ∀ found, parse source ≠ .error (.rejected ⟨.nestedTooDeeply, found⟩)) :
    ((∀ token ∈ tokenize source, token.Fits) ∧
      ∃ expr, parse source = .ok expr ∧ engine.reference source = .ok expr) ∨
    (∃ before token after, tokenize source = before ++ token :: after ∧
      (∀ earlier ∈ before, earlier.Fits) ∧ token.kind = .integerLiteral ∧
      ((token.lexeme.length ≤ Numeral.maxDigits ∧ Integer.greatest < token.number ∧
          parse source = .error (.rejected ⟨.integerOutOfRange, token⟩) ∧
          engine.reference source = .error (.rejected ⟨.integerOutOfRange, token⟩)) ∨
        (Numeral.maxDigits < token.lexeme.length ∧
          parse source = .error (.numeralTooLong ⟨token.lexeme.length⟩) ∧
          engine.reference source =
            .error (.fault .integer (.literal (.numeralTooLong ⟨token.lexeme.length⟩)))))) ∨
    (engine.reach < tree.depth ∧ engine.reference source = .error .exhausted) := by
  obtain ⟨expr, derives, reference | ⟨deep, stop⟩⟩ := contract.reference_cases accepted
  · unfold Grammar.outcomeOf at reference
    rcases parse_of_derives derives with ⟨error, tooDeep | unfit, failed⟩ | ⟨fits, parsed⟩
    · obtain ⟨found, rfl⟩ := tooDeep
      exact absurd failed (shallow found)
    · rw [unfit] at reference
      obtain ⟨before, token, after, split, earlier, own⟩ := Token.exists_of_findSome?_unfit unfit
      obtain ⟨kind, cases⟩ := Token.unfit?_cases own
      refine .inr (.inl ⟨before, token, after, split, earlier, kind, ?_⟩)
      rcases cases with ⟨short, large, rfl⟩ | ⟨long, rfl⟩
      · exact .inl ⟨short, large, failed, reference⟩
      · exact .inr ⟨long, failed, reference⟩
    · rw [fits] at reference
      refine .inl ⟨?_, expr, parsed, reference⟩
      intro token mem
      exact Token.unfit?_eq_none_iff.mp (List.findSome?_eq_none_iff.mp fits token mem)
  · exact .inr (.inr ⟨deep, stop⟩)

/-- Two literals that are too large: both ways the first of them is at fault. -/
theorem reference_too_large :
    parse "1\n!=-2147483648*(5000000000)" =
      .error (.rejected ⟨.integerOutOfRange, ⟨.integerLiteral, "2147483648", 2⟩⟩) ∧
    Grammar.Engine.shifting.reference "1\n!=-2147483648*(5000000000)" =
      .error (.rejected ⟨.integerOutOfRange, ⟨.integerLiteral, "2147483648", 2⟩⟩) := by
  have parsed : parse "1\n!=-2147483648*(5000000000)" =
      .error (.rejected ⟨.integerOutOfRange, ⟨.integerLiteral, "2147483648", 2⟩⟩) := by
    decide +kernel
  have accepted : ∃ tree,
      Grammar.Engine.shifting.parse "1\n!=-2147483648*(5000000000)" = .ok tree := by
    have ok : (Grammar.Engine.shifting.parse "1\n!=-2147483648*(5000000000)").toBool = true := by
      decide +kernel
    cases built : Grammar.Engine.shifting.parse "1\n!=-2147483648*(5000000000)" with
    | ok tree => exact ⟨tree, rfl⟩
    | error mismatch =>
      rw [built] at ok
      cases ok
  obtain ⟨tree, accepted⟩ := accepted
  have shallow : ∀ found, parse "1\n!=-2147483648*(5000000000)" ≠
      .error (.rejected ⟨.nestedTooDeeply, found⟩) := by
    intro found deep
    cases parsed.symm.trans deep
  refine ⟨parsed, ?_⟩
  rcases parse_eq_reference Grammar.Engine.shifting_contract accepted shallow with
    ⟨-, expr, read, -⟩ |
    ⟨before, token, after, -, -, -, ⟨-, -, failed, reference⟩ | ⟨-, failed, -⟩⟩ | ⟨-, stop⟩
  · cases parsed.symm.trans read
  · cases parsed.symm.trans failed
    exact reference
  · cases parsed.symm.trans failed
  · exact absurd stop (by decide +kernel)

end Abacus
