import Abacus.Proofs.Derivation

/-!
# Reading by rules

What the readers do, told as rules: one for each way in which reading a phrase, or going on with a
chain of operators, can end. The rules cover failures as well as trees, and they carry the allowance
for nesting, so whatever a reader does is settled by one induction over them.

Results:
1. `reads_reader`: a reader follows the rules on every input.
2. `Reads.reader_eq`: and the rules leave it no choice.
-/

namespace Abacus

/-! ## Readers within an allowance -/

/-- The kinds of token that a phrase below the unary operators starts with. -/
def Token.Kind.startsPrimary : Token.Kind → Bool
  | .integerLiteral | .booleanLiteral | .stringLiteral | .leftParen => true
  | _ => false

/-- The reader for what is inside a parenthesis, if the allowance is enough for one. -/
def groupReader? (last : Token) (allowance : Nat) : Option Reader :=
  if groupCost ≤ allowance then
    some (Level.reader (unary last (allowance - groupCost)) .equality)
  else none

namespace Phrase

/-- The reader of a phrase where some of the allowance is left. -/
def readerWithin (last : Token) (allowance : Nat) : Phrase → Reader
  | .level own => own.reader (Abacus.unary last allowance)
  | .unary => Abacus.unary last allowance
  | .primary => Abacus.primary last (groupReader? last allowance)

theorem reader_eq (last : Token) (phrase : Phrase) :
    phrase.reader last = phrase.readerWithin last nestingAllowance := by
  cases phrase <;> rfl

theorem readerWithin_level (last : Token) (allowance : Nat) (own : Level) :
    (Phrase.level own).readerWithin last allowance =
      folded own (own.operand.readerWithin last allowance) := by
  cases own <;> rfl

end Phrase

/-- The operator in front of a phrase decides how it is read. -/
theorem unary_cons (last : Token) (allowance : Nat) (token : Token) (rest : List Token) :
    unary last allowance (token :: rest) =
      if token.kind.unaryOp?.isSome then
        if 0 < allowance then
          ((unary last (allowance - 1) rest).map (.unary token)).after token
        else .reject .nestedTooDeeply token (token :: rest)
      else primary last (groupReader? last allowance) (token :: rest) := by
  rw [unary]
  rfl

/-- A literal is passed over, whether it fits or not. -/
theorem primary_literal {last token : Token} {rest : List Token} {inner? : Option Reader}
    {expr : Expr} (literal : token.literal? = some expr) :
    primary last inner? (token :: rest) =
      ⟨token.outcome expr, rest, List.suffix_cons token rest⟩ := by
  obtain ⟨kind, lexeme, line⟩ := token
  cases kind <;> cases literal
  -- Only integers can be refused, and only after they have been passed over.
  case integerLiteral.refl =>
    rw [← @readInteger_eq ⟨.integerLiteral, lexeme, line⟩ rfl]
    rfl
  case stringLiteral.refl => rfl
  case booleanLiteral.refl => rfl

/-- An opening parenthesis needs a reader for what is inside. -/
theorem primary_group {last token : Token} {rest : List Token} {inner? : Option Reader}
    (opens : token.kind = .leftParen) :
    primary last inner? (token :: rest) =
      match inner? with
      | none => .reject .nestedTooDeeply token (token :: rest)
      | some inner => (closeGroup last token (inner rest)).after token := by
  obtain ⟨kind, lexeme, line⟩ := token
  cases opens
  rfl

theorem primary_missing {last token : Token} {rest : List Token} {inner? : Option Reader}
    (other : token.kind.startsPrimary = false) :
    primary last inner? (token :: rest) = .reject .missingExpression token (token :: rest) := by
  obtain ⟨kind, lexeme, line⟩ := token
  cases kind <;> first | rfl | cases other

theorem startsPrimary_cases {token : Token} (starts : token.kind.startsPrimary = true) :
    (∃ expr, token.literal? = some expr) ∨ token.kind = .leftParen := by
  obtain ⟨kind, lexeme, line⟩ := token
  cases kind <;> first | exact .inl ⟨_, rfl⟩ | exact .inr rfl | cases starts

/-- What came of a step, apart from where it started. -/
def Step.result {pending : List Token} (step : Step pending) :
    Except ParseError Expr × List Token :=
  (step.outcome, step.rest)

theorem Step.eq_of_result {pending rest : List Token} {step : Step pending}
    {outcome : Except ParseError Expr} (h : step.result = (outcome, rest)) :
    ∃ suffix, step = ⟨outcome, rest, suffix⟩ := by
  cases h
  exact ⟨step.rest_suffix, rfl⟩

/-! ## The rules -/

/-- What there is to read: a phrase, or more operators of a level after a first operand. -/
inductive Task where
  | phrase (own : Phrase)
  | chain (level : Level) (left : Expr)

/-- `Reads last allowance task pending outcome rest`: doing a task on the pending tokens ends with
an outcome and leaves the rest. -/
inductive Reads (last : Token) :
    Nat → Task → List Token → Except ParseError Expr → List Token → Prop
  | literal {allowance : Nat} {token : Token} {rest : List Token} {expr : Expr} :
      token.literal? = some expr → token.unfit? = none →
      Reads last allowance (.phrase .primary) (token :: rest) (.ok expr) rest
  | unfit {allowance : Nat} {token : Token} {rest : List Token} {error : ParseError} :
      token.unfit? = some error →
      Reads last allowance (.phrase .primary) (token :: rest) (.error error) rest
  | missing {allowance : Nat} {pending : List Token} :
      (∀ token ∈ pending.head?, token.kind.startsPrimary = false) →
      Reads last allowance (.phrase .primary) pending
        (.error (.rejected ⟨.missingExpression, pending.headD last⟩)) pending
  | groupTooDeep {allowance : Nat} {opening : Token} {pending : List Token} :
      opening.kind = .leftParen → allowance < groupCost →
      Reads last allowance (.phrase .primary) (opening :: pending)
        (.error (.rejected ⟨.nestedTooDeeply, opening⟩)) (opening :: pending)
  | groupFails {allowance : Nat} {opening : Token} {pending rest : List Token}
      {error : ParseError} :
      opening.kind = .leftParen → groupCost ≤ allowance →
      Reads last (allowance - groupCost) (.phrase .expression) pending (.error error) rest →
      Reads last allowance (.phrase .primary) (opening :: pending) (.error error) rest
  | groupOpen {allowance : Nat} {opening : Token} {pending rest : List Token} {inner : Expr} :
      opening.kind = .leftParen → groupCost ≤ allowance →
      Reads last (allowance - groupCost) (.phrase .expression) pending (.ok inner) rest →
      (∀ token ∈ rest.head?, token.kind ≠ .rightParen) →
      Reads last allowance (.phrase .primary) (opening :: pending)
        (.error (.rejected ⟨.missingParen, rest.headD last⟩)) rest
  | group {allowance : Nat} {opening closing : Token} {pending rest : List Token}
      {inner : Expr} :
      opening.kind = .leftParen → groupCost ≤ allowance →
      Reads last (allowance - groupCost) (.phrase .expression) pending (.ok inner)
        (closing :: rest) →
      closing.kind = .rightParen →
      Reads last allowance (.phrase .primary) (opening :: pending)
        (.ok (.grouping opening inner)) rest
  | primary {allowance : Nat} {pending rest : List Token}
      {outcome : Except ParseError Expr} :
      (∀ token ∈ pending.head?, token.kind.unaryOp? = none) →
      Reads last allowance (.phrase .primary) pending outcome rest →
      Reads last allowance (.phrase .unary) pending outcome rest
  | unaryTooDeep {op : Token} {pending : List Token} :
      op.kind.unaryOp?.isSome = true →
      Reads last 0 (.phrase .unary) (op :: pending)
        (.error (.rejected ⟨.nestedTooDeeply, op⟩)) (op :: pending)
  | unary {allowance : Nat} {op : Token} {pending rest : List Token}
      {outcome : Except ParseError Expr} :
      op.kind.unaryOp?.isSome = true →
      Reads last allowance (.phrase .unary) pending outcome rest →
      Reads last (allowance + 1) (.phrase .unary) (op :: pending)
        (outcome.map (.unary op)) rest
  | operandFails {allowance : Nat} {level : Level} {pending rest : List Token}
      {error : ParseError} :
      Reads last allowance (.phrase level.operand) pending (.error error) rest →
      Reads last allowance (.phrase (.level level)) pending (.error error) rest
  | operand {allowance : Nat} {level : Level} {pending between rest : List Token}
      {left : Expr} {outcome : Except ParseError Expr} :
      Reads last allowance (.phrase level.operand) pending (.ok left) between →
      Reads last allowance (.chain level left) between outcome rest →
      Reads last allowance (.phrase (.level level)) pending outcome rest
  | stop {allowance : Nat} {level : Level} {left : Expr} {pending : List Token} :
      (∀ token ∈ pending.head?, token.kind.level? ≠ some level) →
      Reads last allowance (.chain level left) pending (.ok left) pending
  | rightFails {allowance : Nat} {level : Level} {left : Expr} {op : Token}
      {pending rest : List Token} {error : ParseError} :
      op.kind.level? = some level →
      Reads last allowance (.phrase level.operand) pending (.error error) rest →
      Reads last allowance (.chain level left) (op :: pending) (.error error) rest
  | binary {allowance : Nat} {level : Level} {left right : Expr} {op : Token}
      {pending between rest : List Token} {outcome : Except ParseError Expr} :
      op.kind.level? = some level →
      Reads last allowance (.phrase level.operand) pending (.ok right) between →
      Reads last allowance (.chain level (.binary op left right)) between outcome rest →
      Reads last allowance (.chain level left) (op :: pending) outcome rest

/-! ## Readers follow the rules -/

/-- A reader does a phrase by the rules. -/
def Reader.Follows (reader : Reader) (last : Token) (allowance : Nat) (phrase : Phrase) : Prop :=
  ∀ pending, Reads last allowance (.phrase phrase) pending (reader pending).outcome
    (reader pending).rest

/-- A level goes on by the rules if its operands are read by them. -/
theorem reads_chain {last : Token} {allowance : Nat} {level : Level} {operand : Reader}
    (follows : operand.Follows last allowance level.operand) {all : List Token} (left : Expr)
    (pending : List Token) (suffix : pending <:+ all) :
    Reads last allowance (.chain level left) pending
      (chain level operand left pending suffix).outcome
      (chain level operand left pending suffix).rest := by
  fun_induction chain level operand left pending suffix with
  | case1 left => exact .stop (by simp)
  | case2 left token rest suffix op error leftOver within eq =>
    have right := follows rest
    rw [eq] at right
    exact .rightFails op right
  | case3 left token rest suffix op right leftOver within eq _ ih =>
    have operandRead := follows rest
    rw [eq] at operandRead
    exact .binary op operandRead ih
  | case4 left token rest suffix other => exact .stop (by simpa using other)

/-- A level is read by the rules if its operands are. -/
theorem follows_folded {last : Token} {allowance : Nat} {level : Level} {operand : Reader}
    (follows : operand.Follows last allowance level.operand) :
    (folded level operand).Follows last allowance (.level level) := by
  intro pending
  have first := follows pending
  unfold folded
  cases eq : operand pending with
  | mk outcome rest suffix =>
    rw [eq] at first
    cases outcome with
    | error error => exact .operandFails first
    | ok left => exact .operand first (reads_chain follows left rest suffix)

theorem follows_level {last : Token} {allowance : Nat}
    (follows : (unary last allowance).Follows last allowance .unary) (level : Level) :
    (level.reader (unary last allowance)).Follows last allowance (.level level) := by
  have factor : (Level.factor.reader (unary last allowance)).Follows last allowance
      (.level .factor) := @follows_folded last allowance .factor _ follows
  have term : (Level.term.reader (unary last allowance)).Follows last allowance
      (.level .term) := @follows_folded last allowance .term _ factor
  have comparison : (Level.comparison.reader (unary last allowance)).Follows last allowance
      (.level .comparison) := @follows_folded last allowance .comparison _ term
  cases level with
  | equality => exact @follows_folded last allowance .equality _ comparison
  | comparison => exact comparison
  | term => exact term
  | factor => exact factor

theorem reads_group {last opening : Token} {allowance : Nat} {inner : Reader}
    (opens : opening.kind = .leftParen) (enough : groupCost ≤ allowance)
    (follows : inner.Follows last (allowance - groupCost) .expression) (rest : List Token) :
    Reads last allowance (.phrase .primary) (opening :: rest)
      (closeGroup last opening (inner rest)).outcome
      (closeGroup last opening (inner rest)).rest := by
  have inside := follows rest
  cases eq : inner rest with
  | mk outcome leftOver suffix =>
    rw [eq] at inside
    match outcome, leftOver with
    | .error error, leftOver => exact .groupFails opens enough inside
    | .ok expr, [] => exact .groupOpen opens enough inside (by simp)
    | .ok expr, token :: leftOver =>
      unfold closeGroup
      by_cases closes : token.kind = .rightParen
      · simp only [if_pos closes]
        exact .group opens enough inside closes
      · simp only [if_neg closes]
        exact .groupOpen opens enough inside (by simpa using closes)

theorem follows_primary {last : Token} {allowance : Nat}
    (follows : groupCost ≤ allowance →
      (Level.reader (unary last (allowance - groupCost)) .equality).Follows last
        (allowance - groupCost) .expression) :
    (primary last (groupReader? last allowance)).Follows last allowance .primary := by
  intro pending
  cases pending with
  | nil => exact .missing (by simp)
  | cons token rest =>
    cases starts : token.kind.startsPrimary with
    | false =>
      rw [primary_missing starts]
      exact .missing (by simpa using starts)
    | true =>
      rcases startsPrimary_cases starts with ⟨expr, literal⟩ | opens
      · rw [primary_literal literal, Token.outcome]
        cases fits : token.unfit? with
        | some error => exact .unfit fits
        | none => exact .literal literal fits
      · rw [primary_group opens]
        unfold groupReader?
        by_cases enough : groupCost ≤ allowance
        · rw [if_pos enough]
          exact reads_group opens enough (follows enough) rest
        · rw [if_neg enough]
          exact .groupTooDeep opens (Nat.lt_of_not_le enough)

theorem follows_unary (last : Token) (allowance : Nat) :
    (unary last allowance).Follows last allowance .unary := by
  intro pending
  -- Both ways of nesting take from the allowance, so the recursion is on what is left of it.
  have primaryFollows : (primary last (groupReader? last allowance)).Follows last allowance
      .primary :=
    follows_primary fun enough =>
      follows_level (follows_unary last (allowance - groupCost)) .equality
  cases pending with
  | nil =>
    rw [unary]
    exact .primary (by simp) (.missing (by simp))
  | cons token rest =>
    rw [unary_cons]
    cases op : token.kind.unaryOp? with
    | none => exact .primary (by simpa using op) (primaryFollows (token :: rest))
    | some unaryOp =>
      rw [if_pos (by simp)]
      cases allowance with
      | zero => exact .unaryTooDeep (by simp [op])
      | succ allowance => exact .unary (by simp [op]) (follows_unary last allowance rest)
termination_by allowance
decreasing_by
  · have : 0 < groupCost := by decide
    omega
  · omega

/-- A reader follows the rules on every input. -/
theorem reads_reader (last : Token) (allowance : Nat) (phrase : Phrase) :
    (phrase.readerWithin last allowance).Follows last allowance phrase := by
  cases phrase with
  | level own => exact follows_level (follows_unary last allowance) own
  | unary => exact follows_unary last allowance
  | primary =>
    exact follows_primary fun _ =>
      follows_level (follows_unary last (allowance - groupCost)) .equality

/-! ## The rules leave no choice -/

/-- What a reader answers to a task, however the pending tokens were reached. -/
def Task.Answers (last : Token) (allowance : Nat) :
    Task → List Token → Except ParseError Expr → List Token → Prop
  | .phrase own, pending, outcome, rest =>
    (own.readerWithin last allowance pending).result = (outcome, rest)
  | .chain level left, pending, outcome, rest =>
    ∀ {all : List Token} (suffix : pending <:+ all),
      (Abacus.chain level (level.operand.readerWithin last allowance) left pending suffix).result =
        (outcome, rest)

theorem groupReader?_of_le {last : Token} {allowance : Nat} (enough : groupCost ≤ allowance) :
    groupReader? last allowance =
      some (Phrase.expression.readerWithin last (allowance - groupCost)) := by
  rw [groupReader?, if_pos enough]
  rfl

/-- Where a parenthesis may be opened, what is read inside of it is closed. -/
theorem primary_group_of_answers {last opening : Token} {allowance : Nat}
    {pending rest : List Token} {outcome : Except ParseError Expr}
    (opens : opening.kind = .leftParen) (enough : groupCost ≤ allowance)
    (inside : (Task.phrase .expression).Answers last (allowance - groupCost) pending outcome rest) :
    ∃ suffix, Abacus.primary last (groupReader? last allowance) (opening :: pending) =
      (closeGroup last opening (⟨outcome, rest, suffix⟩ : Step pending)).after opening := by
  obtain ⟨suffix, read⟩ := Step.eq_of_result inside
  refine ⟨suffix, ?_⟩
  rw [primary_group opens, groupReader?_of_le enough]
  dsimp only
  rw [read]

/-- What the rules say is what the reader does. -/
theorem Reads.answers {last : Token} {allowance : Nat} {task : Task} {pending rest : List Token}
    {outcome : Except ParseError Expr} (h : Reads last allowance task pending outcome rest) :
    task.Answers last allowance pending outcome rest := by
  induction h with
  | literal literal fits =>
    show (Abacus.primary ..).result = _
    rw [primary_literal literal, Token.outcome, fits]
    rfl
  | unfit unfit =>
    show (Abacus.primary ..).result = _
    rw [primary_literal (Token.literal?_of_integer (Token.kind_of_unfit? unfit)), Token.outcome,
      unfit]
    rfl
  | @missing allowance pending other =>
    show (Abacus.primary ..).result = _
    cases pending with
    | nil => rfl
    | cons token rest =>
      rw [primary_missing (other token rfl)]
      rfl
  | groupTooDeep opens little =>
    show (Abacus.primary ..).result = _
    rw [primary_group opens, groupReader?, if_neg (Nat.not_le.mpr little)]
    rfl
  | groupFails opens enough _ ih =>
    obtain ⟨suffix, group⟩ := primary_group_of_answers opens enough ih
    show (Abacus.primary ..).result = _
    rw [group]
    rfl
  | @groupOpen allowance opening pending rest inner opens enough _ other ih =>
    obtain ⟨suffix, group⟩ := primary_group_of_answers opens enough ih
    show (Abacus.primary ..).result = _
    rw [group]
    cases rest with
    | nil => rfl
    | cons token rest =>
      rw [closeGroup, if_neg (other token rfl)]
      rfl
  | group opens enough _ closes ih =>
    obtain ⟨suffix, group⟩ := primary_group_of_answers opens enough ih
    show (Abacus.primary ..).result = _
    rw [group, closeGroup, if_pos closes]
    rfl
  | @primary allowance pending rest outcome other _ ih =>
    show (Abacus.unary ..).result = _
    cases pending with
    | nil =>
      rw [Abacus.unary]
      exact ih
    | cons token pending =>
      rw [unary_cons, other token rfl]
      exact ih
  | unaryTooDeep op =>
    show (Abacus.unary ..).result = _
    rw [unary_cons, if_pos op]
    rfl
  | @unary allowance op pending rest outcome isOp _ ih =>
    obtain ⟨suffix, read⟩ := Step.eq_of_result ih
    have operand : Abacus.unary last allowance pending = ⟨outcome, rest, suffix⟩ := read
    show (Abacus.unary ..).result = _
    rw [unary_cons, if_pos isOp, if_pos (Nat.succ_pos allowance), Nat.add_sub_cancel, operand]
    rfl
  | @operandFails allowance level pending rest error _ ih =>
    obtain ⟨suffix, read⟩ := Step.eq_of_result ih
    show ((Phrase.level level).readerWithin _ _ _).result = _
    rw [Phrase.readerWithin_level, folded, read]
    rfl
  | @operand allowance level pending between rest left outcome _ _ first ih =>
    obtain ⟨suffix, read⟩ := Step.eq_of_result first
    show ((Phrase.level level).readerWithin _ _ _).result = _
    rw [Phrase.readerWithin_level, folded, read]
    exact ih suffix
  | @stop allowance level left pending other =>
    intro all suffix
    cases pending with
    | nil =>
      rw [Abacus.chain]
      rfl
    | cons token rest =>
      rw [Abacus.chain, if_neg (other token rfl)]
      rfl
  | @rightFails allowance level left op pending rest error isOp _ ih =>
    intro all suffix
    obtain ⟨within, read⟩ := Step.eq_of_result ih
    rw [Abacus.chain, if_pos isOp]
    split
    · rename_i eq
      cases eq.symm.trans read
      rfl
    · rename_i eq
      cases eq.symm.trans read
  | @binary allowance level left right op pending between rest outcome isOp _ _ first ih =>
    intro all suffix
    obtain ⟨within, read⟩ := Step.eq_of_result first
    rw [Abacus.chain, if_pos isOp]
    split
    · rename_i eq
      cases eq.symm.trans read
    · rename_i eq
      cases eq.symm.trans read
      exact ih _

/-- The rules leave a reader no choice. -/
theorem Reads.reader_eq {last : Token} {allowance : Nat} {phrase : Phrase}
    {pending rest : List Token} {outcome : Except ParseError Expr}
    (h : Reads last allowance (.phrase phrase) pending outcome rest) :
    (phrase.readerWithin last allowance pending).result = (outcome, rest) :=
  h.answers

end Abacus
