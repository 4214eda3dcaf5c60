import Abacus.Proofs.Recognition

/-!
# One pass over the tokens

Whether a source is an expression, and at which token it stops being one, can be told in one pass
from left to right that remembers two things: whether an operand is expected or complete, and how
many parentheses are open. Reading by descent spreads the same knowledge over its levels. Both come
to the same because no operator is left over behind an operand of the loosest level, whatever level
it might have belonged to, and because descent goes into a parenthesis exactly where the pass counts
one.

Results:
1. `Reads.endsBefore`: where a phrase ends, no operator follows that would go on with it.
2. `Reads.surveyed`: the pass goes over what a reader takes as one operand, and is refused where a
   reader fails.
3. `survey_eq_parse`: the pass over a source ends as parsing it does.
-/

namespace Abacus

/-! ## The pass -/

/-- How far a pass over tokens has come. -/
inductive Progress where
  /-- An operand is expected inside so many open parentheses. -/
  | expecting (opened : Nat)
  /-- An operand is complete inside so many open parentheses. -/
  | complete (opened : Nat)
  /-- The source has ended where it may. -/
  | accepted
  /-- A token may not stand where it does, or is a literal that does not fit. -/
  | refused (error : ParseError)
  deriving DecidableEq, Repr

namespace Progress

/-- Passes over one token. Once the pass is accepted or refused, no further token matters. -/
def step : Progress → Token → Progress
  | .expecting opened, token =>
    match token.kind with
    | .bang | .minus => .expecting opened
    | .leftParen => .expecting (opened + 1)
    | .booleanLiteral | .stringLiteral => .complete opened
    | .integerLiteral =>
      if Numeral.maxDigits < token.lexeme.length then
        .refused (.numeralTooLong ⟨token.lexeme.length⟩)
      else if Integer.greatest < token.number then .refused (.rejected ⟨.integerOutOfRange, token⟩)
      else .complete opened
    | _ => .refused (.rejected ⟨.missingExpression, token⟩)
  | .complete opened, token =>
    if token.kind.binaryOp?.isSome then .expecting opened
    else
      match token.kind, opened with
      | .rightParen, opened + 1 => .complete opened
      | .endOfFile, 0 => .accepted
      | _, 0 => .refused (.rejected ⟨.trailingToken, token⟩)
      | _, _ + 1 => .refused (.rejected ⟨.missingParen, token⟩)
  | .accepted, _ => .accepted
  | .refused error, _ => .refused error

/-- Passes over some tokens. -/
def run (start : Progress) (tokens : List Token) : Progress :=
  tokens.foldl step start

end Progress

/-- The operator of a level stands between operands. -/
theorem binaryOp?_of_level? {kind : Token.Kind} {level : Level} (isOp : kind.level? = some level) :
    kind.binaryOp?.isSome = true := by
  obtain ⟨op, found, -⟩ := Option.map_eq_some_iff.mp isOp
  rw [found]
  rfl

/-- The pass over a source, from its first token to the one that ends it. -/
def survey (source : String) : Progress :=
  (Progress.expecting 0).run (tokenize source ++ [sourceEnd source])

namespace Progress

variable {token : Token} {opened : Nat} {error : ParseError}

@[simp] theorem run_nil (start : Progress) : start.run [] = start := rfl

@[simp] theorem run_cons (start : Progress) (token : Token) (rest : List Token) :
    start.run (token :: rest) = (start.step token).run rest := rfl

theorem run_append (start : Progress) (before after : List Token) :
    start.run (before ++ after) = (start.run before).run after :=
  List.foldl_append

/-- A refusal is final. -/
@[simp] theorem run_refused (error : ParseError) (tokens : List Token) :
    (refused error).run tokens = .refused error := by
  induction tokens with
  | nil => rfl
  | cons token rest ih => exact ih

/-- So is acceptance. -/
@[simp] theorem run_accepted (tokens : List Token) : accepted.run tokens = .accepted := by
  induction tokens with
  | nil => rfl
  | cons token rest ih => exact ih

/-! ## Where a pass ends -/

/-- Whether a pass goes on: it is neither accepted yet nor refused. -/
def Live : Progress → Prop
  | .expecting _ | .complete _ => True
  | .accepted | .refused _ => False

/-- A pass that goes on over some tokens has not ended before them. -/
theorem live_of_run {start : Progress} {tokens : List Token} (live : (start.run tokens).Live) :
    start.Live := by
  cases start with
  | expecting opened => trivial
  | complete opened => trivial
  | accepted =>
    rw [run_accepted] at live
    exact live
  | refused error =>
    rw [run_refused] at live
    exact live

/-- A pass is refused at a token that it comes to. -/
theorem exists_of_run_refused {start : Progress} {tokens : List Token} (live : start.Live)
    (refused : start.run tokens = .refused error) :
    ∃ before token after, tokens = before ++ token :: after ∧ (start.run before).Live ∧
      (start.run before).step token = .refused error := by
  induction tokens generalizing start with
  | nil =>
    rw [run_nil] at refused
    rw [refused] at live
    exact live.elim
  | cons token rest ih =>
    have later : (start.step token).Live → ∃ before found after,
        token :: rest = before ++ found :: after ∧ (start.run before).Live ∧
          (start.run before).step found = .refused error := by
      intro next
      obtain ⟨before, found, after, split, reached, last⟩ := ih next refused
      exact ⟨token :: before, found, after, congrArg (token :: ·) split, reached, last⟩
    rw [run_cons] at refused
    cases next : start.step token with
    | expecting opened => exact later (by rw [next]; trivial)
    | complete opened => exact later (by rw [next]; trivial)
    | accepted =>
      rw [next, run_accepted] at refused
      cases refused
    | refused own =>
      rw [next, run_refused] at refused
      cases refused
      exact ⟨[], token, rest, rfl, live, next⟩

/-! ## Steps -/

theorem step_unary (isOp : token.kind.unaryOp?.isSome = true) :
    (expecting opened).step token = .expecting opened := by
  obtain ⟨kind, lexeme, line⟩ := token
  cases kind <;> first | rfl | cases isOp

theorem step_opening (opens : token.kind = .leftParen) :
    (expecting opened).step token = .expecting (opened + 1) := by
  rw [step, opens]

theorem step_literal {expr : Expr} (literal : token.literal? = some expr)
    (fits : token.unfit? = none) : (expecting opened).step token = .complete opened := by
  obtain ⟨kind, lexeme, line⟩ := token
  cases kind <;> cases literal
  case integerLiteral.refl =>
    obtain ⟨short, small⟩ := Token.unfit?_eq_none_iff.mp fits rfl
    rw [step]
    dsimp only
    rw [if_neg (Nat.not_lt.mpr short), if_neg (Int.not_lt.mpr small)]
  case stringLiteral.refl => rfl
  case booleanLiteral.refl => rfl

theorem step_unfit (unfit : token.unfit? = some error) :
    (expecting opened).step token = .refused error := by
  obtain ⟨integer, ⟨short, large, rfl⟩ | ⟨long, rfl⟩⟩ := Token.unfit?_cases unfit
  · rw [step, integer]
    dsimp only
    rw [if_neg (Nat.not_lt.mpr short), if_pos large]
  · rw [step, integer]
    dsimp only
    rw [if_pos long]

theorem step_missing (other : token.kind.startsPrimary = false)
    (noOp : token.kind.unaryOp? = none) :
    (expecting opened).step token = .refused (.rejected ⟨.missingExpression, token⟩) := by
  obtain ⟨kind, lexeme, line⟩ := token
  cases kind <;> first | rfl | contradiction

theorem step_binary {level : Level} (isOp : token.kind.level? = some level) :
    (complete opened).step token = .expecting opened :=
  if_pos (binaryOp?_of_level? isOp)

theorem step_closing (closes : token.kind = .rightParen) :
    (complete (opened + 1)).step token = .complete opened := by
  obtain ⟨kind, lexeme, line⟩ := token
  cases closes
  rfl

/-- Inside a parenthesis, what neither goes on with an operand nor closes it is refused. -/
theorem step_unclosed (noOp : token.kind.level? = none) (other : token.kind ≠ .rightParen) :
    (complete (opened + 1)).step token = .refused (.rejected ⟨.missingParen, token⟩) := by
  obtain ⟨kind, lexeme, line⟩ := token
  cases kind <;> first | rfl | exact absurd rfl other | cases noOp

/-- Outside all parentheses, so is what does not go on with an operand. -/
theorem step_trailing (noOp : token.kind.level? = none) (other : token.kind ≠ .endOfFile) :
    (complete 0).step token = .refused (.rejected ⟨.trailingToken, token⟩) := by
  obtain ⟨kind, lexeme, line⟩ := token
  cases kind <;> first | rfl | exact absurd rfl other | cases noOp

theorem step_ended (ends : token.kind = .endOfFile) : (complete 0).step token = .accepted := by
  obtain ⟨kind, lexeme, line⟩ := token
  cases ends
  rfl

end Progress

/-! ## Where phrases end -/

theorem Level.rank_injective {first second : Level} (same : first.rank = second.rank) :
    first = second :=
  Phrase.level.inj (Phrase.tightness_injective same)

/-- What has been settled about the tokens behind a task that is done. A chain has to start behind
an operand of its level. -/
def Task.EndsBefore (task : Task) (pending rest : List Token) : Prop :=
  match task with
  | .phrase own => own.EndsBefore rest
  | .chain level _ => level.operand.EndsBefore pending → (Phrase.level level).EndsBefore rest

theorem endsBefore_of_tight {phrase : Phrase}
    (tight : Phrase.unary.tightness ≤ phrase.tightness) (rest : List Token) :
    phrase.EndsBefore rest := by
  intro token mem level isOp
  refine Nat.lt_of_lt_of_le ?_ tight
  cases level <;> decide

/-- Where a phrase ends, no operator follows that would go on with it. -/
theorem Reads.endsBefore {last : Token} {allowance : Nat} {task : Task} {pending rest : List Token}
    {outcome : Except ParseError Expr} (h : Reads last allowance task pending outcome rest)
    {expr : Expr} (ok : outcome = .ok expr) : task.EndsBefore pending rest := by
  induction h generalizing expr with
  | literal => exact endsBefore_of_tight (by decide) _
  | group => exact endsBefore_of_tight (by decide) _
  | primary => exact endsBefore_of_tight (by decide) _
  | unary => exact endsBefore_of_tight (by decide) _
  | unfit => cases ok
  | missing => cases ok
  | groupTooDeep => cases ok
  | groupFails => cases ok
  | groupOpen => cases ok
  | unaryTooDeep => cases ok
  | operandFails => cases ok
  | rightFails => cases ok
  | operand _ _ first chain => exact chain ok (first rfl)
  | @stop _ level _ pending other =>
    -- Behind the operand stands no tighter operator, and the chain has stopped before its own.
    intro starts token mem found isOp
    have notTighter := starts token mem found isOp
    rw [Phrase.tightness_operand] at notTighter
    refine Nat.lt_of_le_of_ne (Nat.le_of_lt_succ notTighter) fun same => ?_
    rw [Level.rank_injective same] at isOp
    exact other token mem isOp
  | binary _ _ _ operand chain => exact fun _ => chain ok (operand rfl)

/-- Behind an expression stands no operator between operands at all. -/
theorem level?_of_expression_endsBefore {rest : List Token}
    (ends : Phrase.expression.EndsBefore rest) :
    ∀ token ∈ rest.head?, token.kind.level? = none := by
  intro token mem
  cases found : token.kind.level? with
  | none => rfl
  | some level => exact absurd (ends token mem level found) (Nat.not_lt_zero _)

/-! ## Readers and the pass -/

/-- What a pass makes of the tokens that a task is done on. Where the task is done, the pass goes
over the tokens that it took as one operand; where it fails, the pass is refused for the same
reason, unless that was the depth of nesting, which a pass does not see. -/
def Surveyed (last : Token) (start : Nat → Progress) (pending : List Token)
    (outcome : Except ParseError Expr) (rest : List Token) : Prop :=
  match outcome with
  | .ok _ => ∃ tokens, pending = tokens ++ rest ∧
      ∀ opened, (start opened).run tokens = .complete opened
  | .error error => (∃ found, error = .rejected ⟨.nestedTooDeeply, found⟩) ∨
      ∀ opened, (start opened).run (pending ++ [last]) = .refused error

namespace Surveyed

variable {last : Token} {start next : Nat → Progress} {tokens pending rest : List Token}
  {outcome : Except ParseError Expr}

/-- A pass starts earlier if the tokens in front lead to where it started. -/
theorem prepend (leads : ∀ opened, (start opened).run tokens = next opened)
    (h : Surveyed last next pending outcome rest) :
    Surveyed last start (tokens ++ pending) outcome rest := by
  cases outcome with
  | ok expr =>
    obtain ⟨taken, rfl, passes⟩ := h
    refine ⟨tokens ++ taken, by simp, fun opened => ?_⟩
    rw [Progress.run_append, leads, passes]
  | error error =>
    rcases h with deep | refused
    · exact .inl deep
    · refine .inr fun opened => ?_
      rw [List.append_assoc, Progress.run_append, leads, refused]

theorem cons {token : Token} (leads : ∀ opened, (start opened).step token = next opened)
    (h : Surveyed last next pending outcome rest) :
    Surveyed last start (token :: pending) outcome rest :=
  @prepend last start next [token] pending rest outcome leads h

theorem map {build : Expr → Expr} (h : Surveyed last start pending outcome rest) :
    Surveyed last start pending (outcome.map build) rest := by
  cases outcome with
  | ok expr => exact h
  | error error => exact h

/-- The tokens behind a task that is done are gone on with by another one. -/
theorem andThen {between : List Token} {expr : Expr}
    (first : Surveyed last start pending (.ok expr) between)
    (second : Surveyed last .complete between outcome rest) :
    Surveyed last start pending outcome rest := by
  obtain ⟨taken, rfl, passes⟩ := first
  exact prepend passes second

/-- A pass is refused at the first token behind those that lead to where that token may not
stand. The end of the source stands behind all tokens. -/
theorem refuse {error : ParseError}
    (refused : ∀ opened, (start opened).step (pending.headD last) = .refused error) :
    Surveyed last start pending (.error error) rest := by
  refine .inr fun opened => ?_
  cases pending with
  | nil => exact refused opened
  | cons token behind =>
    rw [List.cons_append, Progress.run_cons]
    have final := refused opened
    rw [List.headD_cons] at final
    rw [final, Progress.run_refused]

end Surveyed

/-- Where a pass stands before a task. -/
def Task.start : Task → Nat → Progress
  | .phrase _ => .expecting
  | .chain _ _ => .complete

/-- Operators in front of an operand have been dealt with before a phrase below them is read. -/
def Task.Ready : Task → List Token → Prop
  | .phrase .primary, pending => ∀ token ∈ pending.head?, token.kind.unaryOp? = none
  | _, _ => True

theorem Task.ready_operand (level : Level) (pending : List Token) :
    (Task.phrase level.operand).Ready pending := by
  cases level <;> trivial

/-- What holds of every pending token, and of the end of the source, holds of the current one. -/
theorem headD_of_head? {pending : List Token} {last : Token} (holds : Token → Prop)
    (head : ∀ token ∈ pending.head?, holds token) (ends : holds last) :
    holds (pending.headD last) := by
  cases pending with
  | nil => exact ends
  | cons token rest => exact head token rfl

namespace Progress

variable {last : Token} {pending : List Token}

/-- A pass is refused where a reader misses an operand. -/
theorem step_headD_missing (ends : last.kind = .endOfFile)
    (other : ∀ token ∈ pending.head?, token.kind.startsPrimary = false)
    (noOp : ∀ token ∈ pending.head?, token.kind.unaryOp? = none) (opened : Nat) :
    (expecting opened).step (pending.headD last) =
      .refused (.rejected ⟨.missingExpression, pending.headD last⟩) :=
  step_missing
    (headD_of_head? (fun token => token.kind.startsPrimary = false) other (by rw [ends]; rfl))
    (headD_of_head? (fun token => token.kind.unaryOp? = none) noOp (by rw [ends]; rfl))

/-- A pass is refused where a reader misses a closing parenthesis. -/
theorem step_headD_unclosed (ends : last.kind = .endOfFile)
    (behind : Phrase.expression.EndsBefore pending)
    (other : ∀ token ∈ pending.head?, token.kind ≠ .rightParen) (opened : Nat) :
    (complete (opened + 1)).step (pending.headD last) =
      .refused (.rejected ⟨.missingParen, pending.headD last⟩) :=
  step_unclosed
    (headD_of_head? (fun token => token.kind.level? = none)
      (level?_of_expression_endsBefore behind) (by rw [ends]; rfl))
    (headD_of_head? (fun token => token.kind ≠ .rightParen) other (by rw [ends]; decide))

end Progress

/-- A pass goes over what a reader takes as one operand, and is refused where a reader fails. -/
theorem Reads.surveyed {last : Token} {allowance : Nat} {task : Task} {pending rest : List Token}
    {outcome : Except ParseError Expr} (h : Reads last allowance task pending outcome rest)
    (ends : last.kind = .endOfFile) (ready : task.Ready pending) :
    Surveyed last task.start pending outcome rest := by
  induction h with
  | @literal _ token rest _ literal fits =>
    exact ⟨[token], rfl, fun _ => Progress.step_literal literal fits⟩
  | unfit unfit => exact Surveyed.refuse fun _ => Progress.step_unfit unfit
  | missing other => exact Surveyed.refuse (Progress.step_headD_missing ends other ready)
  | groupTooDeep => exact .inl ⟨_, rfl⟩
  | @groupFails _ opening pending rest error opens _ _ ih =>
    rcases ih trivial with deep | refused
    · exact .inl deep
    · refine .inr fun opened => ?_
      rw [List.cons_append, Progress.run_cons]
      exact (congrArg (Progress.run · _) (Progress.step_opening opens)).trans (refused (opened + 1))
  | @groupOpen _ opening pending rest inner opens _ inside other ih =>
    -- Inside one more parenthesis, the pass has come to the token behind the inner expression.
    obtain ⟨tokens, rfl, passes⟩ := ih trivial
    have leads : ∀ opened, (Progress.expecting opened).run (opening :: tokens) =
        .complete (opened + 1) := by
      intro opened
      rw [Progress.run_cons, Progress.step_opening opens]
      exact passes (opened + 1)
    exact Surveyed.prepend leads
      (Surveyed.refuse (Progress.step_headD_unclosed ends (inside.endsBefore rfl) other))
  | @group _ opening closing pending rest inner opens _ _ closes ih =>
    obtain ⟨tokens, rfl, passes⟩ := ih trivial
    refine ⟨opening :: (tokens ++ [closing]), by simp, fun opened => ?_⟩
    show ((Progress.expecting opened).step opening).run _ = _
    rw [Progress.step_opening opens, Progress.run_append]
    have inside : (Progress.expecting (opened + 1)).run tokens = .complete (opened + 1) :=
      passes (opened + 1)
    rw [inside]
    exact Progress.step_closing closes
  | primary noOp _ ih => exact ih noOp
  | unaryTooDeep => exact .inl ⟨_, rfl⟩
  | unary isOp _ ih => exact Surveyed.cons (fun _ => Progress.step_unary isOp) (ih trivial).map
  | @operandFails _ level pending _ _ _ ih => exact ih (Task.ready_operand level pending)
  | @operand _ level pending _ _ _ _ _ _ first chain =>
    exact (first (Task.ready_operand level pending)).andThen (chain trivial)
  | stop => exact ⟨[], rfl, fun _ => rfl⟩
  | @rightFails _ level _ _ pending _ _ isOp _ ih =>
    exact Surveyed.cons (fun _ => Progress.step_binary isOp) (ih (Task.ready_operand level pending))
  | @binary _ level _ _ _ pending _ _ _ isOp _ _ operand chain =>
    exact Surveyed.cons (fun _ => Progress.step_binary isOp)
      ((operand (Task.ready_operand level pending)).andThen (chain trivial))

/-! ## Sources -/

theorem sourceEnd_kind (source : String) : (sourceEnd source).kind = .endOfFile := rfl

/-- A pass goes over the expression that a source starts with as over one operand. -/
theorem Reads.run_of_source {source : String} {expr : Expr} {rest : List Token}
    (read : Reads (sourceEnd source) nestingAllowance (.phrase .expression) (tokenize source)
      (.ok expr) rest) :
    ∃ tokens, tokenize source = tokens ++ rest ∧
      (Progress.expecting 0).run tokens = .complete 0 := by
  obtain ⟨tokens, split, passes⟩ := read.surveyed (sourceEnd_kind source) trivial
  exact ⟨tokens, split, passes 0⟩

/-- A token behind that expression is out of place. -/
theorem Reads.trailing_of_source {source : String} {expr : Expr} {token : Token}
    {rest : List Token}
    (read : Reads (sourceEnd source) nestingAllowance (.phrase .expression) (tokenize source)
      (.ok expr) (token :: rest)) :
    (Progress.complete 0).step token = .refused (.rejected ⟨.trailingToken, token⟩) := by
  have noOp : token.kind.level? = none :=
    level?_of_expression_endsBefore (read.endsBefore rfl) token rfl
  have other : token.kind ≠ .endOfFile :=
    kind_ne_endOfFile (read.rest_suffix.subset List.mem_cons_self)
  exact Progress.step_trailing noOp other

/-- A pass over the tokens of a source that is accepted goes over them as over one operand. -/
theorem run_of_parse {source : String} {expr : Expr} (h : parse source = .ok expr) :
    (Progress.expecting 0).run (tokenize source) = .complete 0 := by
  obtain ⟨tokens, split, whole⟩ := (reads_of_parse h).run_of_source
  rw [split, List.append_nil]
  exact whole

/-- Parsing ends in one of three ways: it is stopped by the nesting limit, or a pass over the tokens
is accepted and there is a tree, or the pass is refused and the error is the same. -/
theorem survey_cases (source : String) :
    (∃ found, parse source = .error (.rejected ⟨.nestedTooDeeply, found⟩)) ∨
      (∃ expr, parse source = .ok expr ∧ survey source = .accepted) ∨
      ∃ error, parse source = .error error ∧ survey source = .refused error := by
  obtain ⟨outcome, rest, read⟩ := reads_source source
  have parsed := parse_of_reads read
  cases outcome with
  | error error =>
    rcases read.surveyed (sourceEnd_kind source) trivial with ⟨found, rfl⟩ | refused
    · exact .inl ⟨found, parsed⟩
    · exact .inr (.inr ⟨error, parsed, refused 0⟩)
  | ok expr =>
    obtain ⟨tokens, split, whole⟩ := read.run_of_source
    have passed : survey source = (Progress.complete 0).run (rest ++ [sourceEnd source]) := by
      rw [survey, split, List.append_assoc, Progress.run_append, whole]
    rw [passed]
    cases rest with
    | nil => exact .inr (.inl ⟨expr, parsed, Progress.step_ended (sourceEnd_kind source)⟩)
    | cons token behind =>
      refine .inr (.inr ⟨_, parsed, ?_⟩)
      rw [List.cons_append, Progress.run_cons, read.trailing_of_source, Progress.run_refused]

/-- Unless parsing is stopped by the nesting limit, one pass over the tokens of a source, its end
included, is accepted if parsing gives a tree, and is refused with the error of parsing, at the same
token, if it gives none. -/
theorem survey_eq_parse (source : String)
    (shallow : ∀ found, parse source ≠ .error (.rejected ⟨.nestedTooDeeply, found⟩)) :
    survey source =
      match parse source with
      | .ok _ => .accepted
      | .error error => .refused error := by
  rcases survey_cases source with ⟨found, deep⟩ | ⟨expr, parsed, accepted⟩ |
    ⟨error, parsed, refused⟩
  · exact absurd deep (shallow found)
  · rw [parsed, accepted]
  · rw [parsed, refused]

/-- A number too large in a parenthesis that is never closed: of the two, the number comes first. -/
theorem survey_too_large :
    parse "true == -(3\n>2147483648 7" =
      .error (.rejected ⟨.integerOutOfRange, ⟨.integerLiteral, "2147483648", 2⟩⟩) ∧
    survey "true == -(3\n>2147483648 7" =
      .refused (.rejected ⟨.integerOutOfRange, ⟨.integerLiteral, "2147483648", 2⟩⟩) := by
  have parsed : parse "true == -(3\n>2147483648 7" =
      .error (.rejected ⟨.integerOutOfRange, ⟨.integerLiteral, "2147483648", 2⟩⟩) := by
    decide +kernel
  have shallow : ∀ found, parse "true == -(3\n>2147483648 7" ≠
      .error (.rejected ⟨.nestedTooDeeply, found⟩) := by
    intro found deep
    cases parsed.symm.trans deep
  refine ⟨parsed, ?_⟩
  rw [survey_eq_parse _ shallow, parsed]

end Abacus
