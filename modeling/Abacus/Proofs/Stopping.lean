import Abacus.Proofs.Progress

/-!
# Where reading stops

A source is rejected at a token for one of two reasons: the token may not stand where it does, or
something is wrong with the token or with how deep it lies. In the first case the reader stands in
front of that token: it has taken all tokens before it, none of which was out of place.

Results:
1. `Reads.stopsAt`: a reader that finds a token out of place stands in front of it.
2. `parse_stopsAt`: so does the parser of a whole source.
3. `Progress.refused_cases`: what a live pass can be refused for.
4. `Progress.misplaced_of_step` and `misplaced_of_parse`: where literals fit and the nesting limit
   is not hit, there is no other reason to reject a source.
-/

namespace Abacus

/-! ## Tokens out of place -/

/-- Whether a token is rejected because of the tokens before it, and not for what it is or for how
deep it lies. -/
def SyntaxError.Cause.misplaced : SyntaxError.Cause → Bool
  | .missingExpression | .missingParen | .trailingToken => true
  | .integerOutOfRange | .nestedTooDeeply => false

/-- A reader has stopped in front of the token that it rejects: a pass goes over the tokens before
it, and is refused there. -/
def StopsAt (last : Token) (start : Nat → Progress) (pending rest : List Token)
    (error : SyntaxError) : Prop :=
  ∃ tokens, pending = tokens ++ rest ∧ rest.headD last = error.found ∧
    ∀ opened, ((start opened).run tokens).Live ∧
      ((start opened).run tokens).step error.found = .refused (.rejected error)

namespace StopsAt

variable {last : Token} {start next : Nat → Progress} {tokens pending rest : List Token}
  {error : SyntaxError}

/-- A pass starts earlier if the tokens in front lead to where it started. -/
theorem prepend (leads : ∀ opened, (start opened).run tokens = next opened)
    (h : StopsAt last next pending rest error) :
    StopsAt last start (tokens ++ pending) rest error := by
  obtain ⟨taken, rfl, found, stops⟩ := h
  refine ⟨tokens ++ taken, (List.append_assoc _ _ _).symm, found, fun opened => ?_⟩
  rw [Progress.run_append, leads]
  exact stops opened

theorem cons {token : Token} (leads : ∀ opened, (start opened).step token = next opened)
    (h : StopsAt last next pending rest error) :
    StopsAt last start (token :: pending) rest error :=
  @prepend last start next [token] pending rest error leads h

/-- A pass may start inside as many parentheses as may be. -/
theorem within (f : Nat → Nat) (h : StopsAt last start pending rest error) :
    StopsAt last (fun opened => start (f opened)) pending rest error := by
  obtain ⟨tokens, split, found, stops⟩ := h
  exact ⟨tokens, split, found, fun opened => stops (f opened)⟩

/-- A reader that takes nothing stops at once. -/
theorem here {cause : SyntaxError.Cause} (live : ∀ opened, (start opened).Live)
    (refused : ∀ opened, (start opened).step (pending.headD last) =
      .refused (.rejected ⟨cause, pending.headD last⟩)) :
    StopsAt last start pending pending ⟨cause, pending.headD last⟩ :=
  ⟨[], rfl, rfl, fun opened => ⟨live opened, refused opened⟩⟩

end StopsAt

/-- A reader that finds a token out of place stands in front of it. -/
theorem Reads.stopsAt {last : Token} {allowance : Nat} {task : Task} {pending rest : List Token}
    {outcome : Except ParseError Expr} (h : Reads last allowance task pending outcome rest)
    (ends : last.kind = .endOfFile) (ready : task.Ready pending) {error : SyntaxError}
    (failed : outcome = .error (.rejected error)) (misplaced : error.cause.misplaced = true) :
    StopsAt last task.start pending rest error := by
  induction h with
  | literal => cases failed
  | unfit unfit =>
    obtain ⟨-, ⟨-, -, rfl⟩ | ⟨-, rfl⟩⟩ := Token.unfit?_cases unfit
    · cases failed
      cases misplaced
    · cases failed
  | missing other =>
    cases failed
    exact .here (fun _ => trivial) (Progress.step_headD_missing ends other ready)
  | groupTooDeep =>
    cases failed
    cases misplaced
  | groupFails opens _ _ ih =>
    cases failed
    exact .cons (fun _ => Progress.step_opening opens) ((ih trivial rfl).within (· + 1))
  | @groupOpen _ opening pending rest inner opens _ inside other _ =>
    cases failed
    obtain ⟨tokens, rfl, passes⟩ := inside.surveyed ends trivial
    have stops : StopsAt last (fun opened => .complete (opened + 1)) rest rest _ :=
      .here (fun _ => trivial) (Progress.step_headD_unclosed ends (inside.endsBefore rfl) other)
    exact .cons (fun _ => Progress.step_opening opens)
      (.prepend (fun opened => passes (opened + 1)) stops)
  | group => cases failed
  | primary noOp _ ih => exact ih noOp failed
  | unaryTooDeep =>
    cases failed
    cases misplaced
  | @unary _ op _ _ outcome isOp _ ih =>
    cases outcome with
    | ok operand => cases failed
    | error own =>
      cases failed
      exact .cons (fun _ => Progress.step_unary isOp) (ih trivial rfl)
  | @operandFails _ level pending _ _ _ ih => exact ih (Task.ready_operand level pending) failed
  | @operand _ level pending _ _ _ _ first _ _ chain =>
    obtain ⟨tokens, rfl, passes⟩ := first.surveyed ends (Task.ready_operand level pending)
    exact .prepend passes (chain trivial failed)
  | stop => cases failed
  | @rightFails _ level _ _ pending _ _ isOp _ ih =>
    cases failed
    exact .cons (fun _ => Progress.step_binary isOp) (ih (Task.ready_operand level pending) rfl)
  | @binary _ level _ _ _ pending _ _ _ isOp right _ _ chain =>
    obtain ⟨tokens, rfl, passes⟩ := right.surveyed ends (Task.ready_operand level pending)
    exact .cons (fun _ => Progress.step_binary isOp) (.prepend passes (chain trivial failed))

/-! ## Sources -/

/-- The stream that the parser of a source leaves is what reading leaves. -/
theorem parse_stream {source : String} {outcome : Except ParseError Expr} {rest : List Token}
    (h : Reads (sourceEnd source) nestingAllowance (.phrase .expression) (tokenize source) outcome
      rest) : (TokenStream.ofSource source).parse.2 = ⟨rest, sourceEnd source⟩ := by
  have read : Phrase.expression.read (TokenStream.ofSource source) = (outcome, ⟨rest, _⟩) :=
    Reads.read_eq h
  rw [TokenStream.parse, read]
  cases outcome with
  | error error => rfl
  | ok expr =>
    dsimp only
    split <;> rfl

/-- The parser of a source that finds a token out of place stands in front of it. -/
theorem parse_stopsAt {source : String} {error : SyntaxError}
    (failed : parse source = .error (.rejected error)) (misplaced : error.cause.misplaced = true) :
    StopsAt (sourceEnd source) (fun _ => .expecting 0) (tokenize source)
      (TokenStream.ofSource source).parse.2.pending error := by
  obtain ⟨outcome, rest, read⟩ := reads_source source
  have parsed := parse_of_reads read
  rw [failed] at parsed
  rw [parse_stream read]
  match outcome, rest with
  | .error own, rest =>
    cases parsed
    exact (read.stopsAt (sourceEnd_kind source) trivial rfl misplaced).within fun _ => 0
  | .ok expr, [] => cases parsed
  | .ok expr, token :: behind =>
    cases parsed
    obtain ⟨tokens, split, whole⟩ := read.run_of_source
    refine ⟨tokens, split, rfl, fun _ => ?_⟩
    rw [whole]
    exact ⟨trivial, read.trailing_of_source⟩

/-! ## No other reason -/

/-- A pass that is live is refused for one of two reasons: it expects an operand and comes to a
literal that does not fit, or the token is out of place, and then so is any token of its kind. -/
theorem Progress.refused_cases {start : Progress} {token : Token} {error : ParseError}
    (live : start.Live) (refused : start.step token = .refused error) :
    (∃ opened, start = .expecting opened) ∧ token.unfit? = some error ∨
      ∃ cause, error = .rejected ⟨cause, token⟩ ∧ cause.misplaced = true ∧
        ∀ other : Token, other.kind = token.kind →
          start.step other = .refused (.rejected ⟨cause, other⟩) := by
  cases start with
  | accepted => exact live.elim
  | refused own => exact live.elim
  | expecting opened =>
    by_cases integer : token.kind = .integerLiteral
    · cases unfit : token.unfit? with
      | some own =>
        rw [step_unfit unfit] at refused
        cases refused
        exact .inl ⟨⟨opened, rfl⟩, rfl⟩
      | none =>
        rw [step_literal (Token.literal?_of_integer integer) unfit] at refused
        cases refused
    · -- Apart from numbers a step looks at kinds only, so one token stands for all of its kind.
      obtain ⟨kind, lexeme, line⟩ := token
      refine .inr ?_
      cases kind
      case integerLiteral => exact absurd rfl integer
      all_goals
        cases refused <;> refine ⟨_, rfl, rfl, fun ⟨otherKind, _, _⟩ same => ?_⟩ <;>
          · cases (show otherKind = _ from same)
            rfl
  | complete opened =>
    obtain ⟨kind, lexeme, line⟩ := token
    refine .inr ?_
    cases kind <;> cases opened <;> cases refused <;>
      refine ⟨_, rfl, rfl, fun ⟨otherKind, _, _⟩ same => ?_⟩ <;>
      · cases (show otherKind = _ from same)
        rfl

/-- A pass over a token that fits is refused only because the token is out of place. -/
theorem Progress.misplaced_of_step {start : Progress} {token : Token} {error : ParseError}
    (live : start.Live) (refused : start.step token = .refused error) (fits : token.Fits) :
    ∃ cause, error = .rejected ⟨cause, token⟩ ∧ cause.misplaced = true := by
  rcases refused_cases live refused with ⟨-, unfit⟩ | ⟨cause, is, misplaced, -⟩
  · cases unfit.symm.trans (Token.unfit?_eq_none_iff.mpr fits)
  · exact ⟨cause, is, misplaced⟩

/-- Where literals fit and nesting is no matter, a source is rejected only for a token out of
place. -/
theorem misplaced_of_parse {source : String} {error : ParseError}
    (failed : parse source = .error error)
    (shallow : ∀ found, parse source ≠ .error (.rejected ⟨.nestedTooDeeply, found⟩))
    (fits : ∀ token ∈ tokenize source, token.Fits) :
    ∃ own, error = .rejected own ∧ own.cause.misplaced = true := by
  rcases survey_cases source with ⟨found, deep⟩ | ⟨expr, parsed, -⟩ | ⟨own, parsed, refused⟩
  · exact absurd deep (shallow found)
  · cases failed.symm.trans parsed
  · cases failed.symm.trans parsed
    obtain ⟨before, token, after, split, live, step⟩ :=
      @Progress.exists_of_run_refused _ (.expecting 0) _ trivial refused
    have tokenFits : token.Fits := by
      have mem : token ∈ tokenize source ++ [sourceEnd source] := by
        rw [split]
        exact List.mem_append_right _ List.mem_cons_self
      rcases List.mem_append.mp mem with inside | ends
      · exact fits token inside
      · rintro kind
        rw [List.mem_singleton.mp ends, sourceEnd_kind] at kind
        cases kind
    obtain ⟨cause, rfl, misplaced⟩ := Progress.misplaced_of_step live step tokenFits
    exact ⟨_, rfl, misplaced⟩

end Abacus
