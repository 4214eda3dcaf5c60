import Mathlib.Data.List.Infix
import Abacus.Proofs.Load
import Abacus.Proofs.Stopping

/-!
# The first token out of place

A source is rejected at the first token that may not stand where it does: what comes before it
could have been gone on with to an expression, and with it nothing can. Both are facts about the
kinds of tokens, and the pass over tokens decides them. Where the pass goes on, an operand and the
parentheses that are open complete an expression; where it is refused, it is refused in front of
everything else. The parser looks at no more than the token that it stands in front of, so what
comes behind that token makes no difference.

Results:
1. `derives_of_run`: tokens that the pass goes over as one operand are an expression.
2. `viable_of_live`: where the pass goes on, tokens can be completed to an expression.
3. `Derives.run_bares`: of the tokens of an expression, only the kinds matter to the pass.
4. `Reads.upTo`: a reader looks at no more than the token in front of which it stops.
5. `parse_first_misplaced`: the token in error is the first that no expression goes on with.
-/

namespace Abacus

/-! ## Sentences -/

/-- Whether tokens of such kinds are an expression by the grammar, whatever they spell. -/
def Sentence (kinds : List Token.Kind) : Prop :=
  ∃ tokens expr, tokens.map Token.kind = kinds ∧ Derives .expression tokens expr

/-- A token of a kind that fits, whatever the kind. -/
def Token.Kind.bare (kind : Token.Kind) : Token :=
  ⟨kind, "", 1⟩

/-! ## What a pass goes over is an expression -/

/-- Behind an expression, a pass does not come back to where it is. -/
theorem Progress.run_behind {rest : List Token} (ends : Phrase.expression.EndsBefore rest)
    (stays : (complete 0).run rest = .complete 0) : rest = [] := by
  cases rest with
  | nil => rfl
  | cons token behind =>
    have noOp := level?_of_expression_endsBefore ends token rfl
    rw [run_cons] at stays
    by_cases last : token.kind = .endOfFile
    · rw [step_ended last, run_accepted] at stays
      cases stays
    · rw [step_trailing noOp last, run_refused] at stays
      cases stays

/-- Tokens that the pass goes over as one operand are an expression. -/
theorem derives_of_run {tokens : List Token}
    (passes : (Progress.expecting 0).run tokens = .complete 0) :
    ∃ expr, Derives .expression tokens expr := by
  -- A reader whose allowance is the load of the tokens does not give up on them.
  have read := reads_reader Token.Kind.endOfFile.bare
    ((Load.expecting 0 []).peak groupCost tokens) .expression tokens
  have surveyed := read.surveyed rfl trivial
  cases outcome : (Phrase.expression.readerWithin Token.Kind.endOfFile.bare
      ((Load.expecting 0 []).peak groupCost tokens) tokens).outcome with
  | error error =>
    rw [outcome] at read surveyed
    rcases surveyed with ⟨found, rfl⟩ | refused
    · exact absurd (read.exceeds_of_tooDeep rfl 0 []) (Nat.not_lt.mpr (Nat.le_refl _))
    · have final := refused 0
      rw [Task.start, Progress.run_append, passes] at final
      cases final
  | ok expr =>
    rw [outcome] at read
    obtain ⟨taken, split, derives⟩ := read.derived rfl
    have whole : (Progress.expecting 0).run taken = .complete 0 := by
      rw [outcome] at surveyed
      obtain ⟨own, ownSplit, ownPasses⟩ := surveyed
      rw [List.append_cancel_right (split.symm.trans ownSplit)]
      exact ownPasses 0
    rw [split, Progress.run_append, whole] at passes
    rw [Progress.run_behind (read.endsBefore rfl) passes, List.append_nil] at split
    rw [split]
    exact ⟨expr, derives⟩

/-- Closing parentheses close those that are open. -/
theorem Progress.run_closing (opened : Nat) :
    (complete opened).run (List.replicate opened Token.Kind.rightParen.bare) = .complete 0 := by
  induction opened with
  | zero => rfl
  | succ opened ih =>
    rw [List.replicate_succ, run_cons, step_closing rfl]
    exact ih

/-- Where the pass goes on, tokens can be completed to an expression. -/
theorem viable_of_live {tokens : List Token} (live : ((Progress.expecting 0).run tokens).Live) :
    ∃ more, Sentence (tokens.map Token.kind ++ more) := by
  have completed : ∃ more, (Progress.expecting 0).run (tokens ++ more) = .complete 0 := by
    cases reached : (Progress.expecting 0).run tokens with
    | expecting opened =>
      refine ⟨Token.Kind.booleanLiteral.bare :: .replicate opened Token.Kind.rightParen.bare, ?_⟩
      rw [Progress.run_append, reached]
      exact Progress.run_closing opened
    | complete opened =>
      refine ⟨.replicate opened Token.Kind.rightParen.bare, ?_⟩
      rw [Progress.run_append, reached]
      exact Progress.run_closing opened
    | accepted =>
      rw [reached] at live
      exact live.elim
    | refused error =>
      rw [reached] at live
      exact live.elim
  obtain ⟨more, passes⟩ := completed
  obtain ⟨expr, derives⟩ := derives_of_run passes
  exact ⟨more.map Token.kind, tokens ++ more, expr, List.map_append, derives⟩

/-! ## Only kinds matter to a pass -/

/-- The tokens of some kinds, spelled as nothing. -/
def bares (kinds : List Token.Kind) : List Token :=
  kinds.map Token.Kind.bare

theorem bares_cons (kind : Token.Kind) (kinds : List Token.Kind) :
    bares (kind :: kinds) = kind.bare :: bares kinds := rfl

theorem bares_append (first second : List Token.Kind) :
    bares (first ++ second) = bares first ++ bares second :=
  List.map_append

namespace Progress

variable {start : Progress} {token : Token} {tokens : List Token}

/-- Where a pass goes on, it goes on over any token of the same kind that fits. -/
theorem step_bare (live : (start.step token).Live) :
    start.step token.kind.bare = start.step token := by
  cases start with
  | accepted => exact live.elim
  | refused error => exact live.elim
  | complete opened =>
    obtain ⟨kind, lexeme, line⟩ := token
    cases kind <;> cases opened <;> first | rfl | exact live.elim
  | expecting opened =>
    by_cases integer : token.kind = .integerLiteral
    · cases unfit : token.unfit? with
      | some error =>
        rw [step_unfit unfit] at live
        exact live.elim
      | none =>
        rw [integer, step_literal (Token.literal?_of_integer integer) unfit]
        rfl
    · obtain ⟨kind, lexeme, line⟩ := token
      cases kind <;> first | rfl | exact absurd rfl integer | exact live.elim

theorem run_bares (live : (start.run tokens).Live) :
    start.run (bares (tokens.map Token.kind)) = start.run tokens := by
  induction tokens generalizing start with
  | nil => rfl
  | cons token rest ih =>
    have next := step_bare (live_of_run live)
    rw [run_cons, ← ih live]
    exact congrArg (Progress.run · _) next

/-- Where a token is out of place, so is any token of the same kind. -/
theorem step_bare_refused {cause : SyntaxError.Cause} (live : start.Live)
    (refused : start.step token = .refused (.rejected ⟨cause, token⟩))
    (misplaced : cause.misplaced = true) :
    ∃ error, start.step token.kind.bare = .refused error := by
  rcases refused_cases live refused with ⟨-, unfit⟩ | ⟨own, -, -, alike⟩
  · -- A literal that does not fit is not out of place.
    obtain ⟨-, ⟨-, -, same⟩ | ⟨-, same⟩⟩ := Token.unfit?_cases unfit
    · cases same
      cases misplaced
    · cases same
  · exact ⟨_, alike token.kind.bare rfl⟩

end Progress

/-- Of the tokens of an expression, only the kinds matter to the pass. -/
theorem Derives.run_bares {phrase : Phrase} {tokens : List Token} {expr : Expr}
    (h : Derives phrase tokens expr) (opened : Nat) :
    (Progress.expecting opened).run (bares (tokens.map Token.kind)) = .complete opened := by
  induction h generalizing opened with
  | @literal token expr literal =>
    obtain ⟨kind, lexeme, line⟩ := token
    cases kind <;> first | rfl | cases literal
  | @grouping opening closing tokens inner opens _ closes ih =>
    have opensInto : (Progress.expecting opened).step opening.kind.bare = .expecting (opened + 1) :=
      Progress.step_opening opens
    rw [List.map_cons, List.map_append, bares_cons, bares_append, Progress.run_cons, opensInto,
      Progress.run_append, ih]
    exact Progress.step_closing closes
  | primary _ ih => exact ih opened
  | @unary op tokens operand listed _ ih =>
    have goesOn : (Progress.expecting opened).step op.kind.bare = .expecting opened :=
      Progress.step_unary (mem_unaryOperators_iff.mp listed)
    rw [List.map_cons, bares_cons, Progress.run_cons, goesOn, ih]
  | operand _ ih => exact ih opened
  | @binary level op before after left right _ listed _ first second =>
    have goesOn : (Progress.complete opened).step op.kind.bare = .expecting opened :=
      Progress.step_binary (Level.mem_operators_iff.mp listed)
    rw [List.map_append, List.map_cons, bares_append, bares_cons, Progress.run_append, first,
      Progress.run_cons, goesOn, second]

/-- No expression starts with tokens that the pass goes over and a token that is out of place behind
them. -/
theorem not_sentence_of_refused {before : List Token} {error : SyntaxError}
    (live : ((Progress.expecting 0).run before).Live)
    (refused : ((Progress.expecting 0).run before).step error.found = .refused (.rejected error))
    (misplaced : error.cause.misplaced = true) (more : List Token.Kind) :
    ¬ Sentence ((before ++ [error.found]).map Token.kind ++ more) := by
  rintro ⟨tokens, expr, kinds, derives⟩
  obtain ⟨own, stops⟩ := Progress.step_bare_refused live refused misplaced
  have passes := derives.run_bares 0
  rw [kinds, List.map_append, bares_append, bares_append, Progress.run_append, Progress.run_append,
    Progress.run_bares live] at passes
  have stopped : ((Progress.expecting 0).run before).run (bares [error.found.kind]) =
      .refused own := stops
  rw [List.map_singleton, stopped, Progress.run_refused] at passes
  cases passes

/-- Tokens behind which the end of the source is out of place are no expression. -/
theorem not_sentence_of_endOfFile {before : List Token} {last : Token} {error : ParseError}
    (live : ((Progress.expecting 0).run before).Live)
    (refused : ((Progress.expecting 0).run before).step last = .refused error)
    (ends : last.kind = .endOfFile) : ¬ Sentence (before.map Token.kind) := by
  rintro ⟨tokens, expr, kinds, derives⟩
  have passes := derives.run_bares 0
  rw [kinds, Progress.run_bares live] at passes
  rw [passes, Progress.step_ended ends] at refused
  cases refused

/-! ## Readers look at one token -/

/-- Whatever stands behind a token, and whatever ends the source, doing a task takes the same tokens
in front of it and ends with the same outcome. -/
def ReadsUpTo (found : Token) (allowance : Nat) (task : Task) (taken : List Token)
    (outcome : Except ParseError Expr) : Prop :=
  ∀ last behind, behind.head? = some found →
    Reads last allowance task (taken ++ behind) outcome behind

theorem headD_of_head?_eq {pending : List Token} {last found : Token}
    (same : pending.head? = some found) : pending.headD last = found := by
  rw [List.headD_eq_head?_getD, same]
  rfl

/-- What stands in front of some tokens, or is their first, does not depend on the others. -/
theorem head?_append_of_head? {front rest behind : List Token} (same : behind.head? = rest.head?) :
    (front ++ behind).head? = (front ++ rest).head? := by
  rw [List.head?_append, List.head?_append, same]

theorem exists_head?_append {front rest : List Token} {found : Token}
    (stops : rest.head? = some found) : ∃ next, (front ++ rest).head? = some next := by
  rw [List.head?_append, stops]
  cases front.head? <;> exact ⟨_, rfl⟩

/-- One task after another looks at no more than the second one does. -/
theorem ReadsUpTo.behind {found next : Token} {allowance : Nat} {task : Task}
    {taken more rest : List Token} {outcome : Except ParseError Expr}
    (h : ReadsUpTo next allowance task taken outcome) (between : (more ++ rest).head? = some next)
    (stops : rest.head? = some found) {last : Token} {behind : List Token}
    (same : behind.head? = some found) :
    Reads last allowance task (taken ++ more ++ behind) outcome (more ++ behind) := by
  rw [List.append_assoc]
  exact h last (more ++ behind)
    ((head?_append_of_head? (same.trans stops.symm)).trans between)

/-- A reader looks at no more than the token in front of which it stops. -/
theorem Reads.upTo {last : Token} {allowance : Nat} {task : Task} {pending rest : List Token}
    {outcome : Except ParseError Expr} (h : Reads last allowance task pending outcome rest)
    {found : Token} (stops : rest.head? = some found) :
    ∃ taken, pending = taken ++ rest ∧ ReadsUpTo found allowance task taken outcome := by
  induction h generalizing found with
  | @literal _ token _ _ literal fits =>
    exact ⟨[token], rfl, fun _ _ _ => .literal literal fits⟩
  | @unfit _ token _ _ unfit => exact ⟨[token], rfl, fun _ _ _ => .unfit unfit⟩
  | @missing allowance pending starts =>
    refine ⟨[], rfl, fun other behind same => ?_⟩
    have read := @Reads.missing other allowance behind (by rwa [same, ← stops])
    rw [headD_of_head?_eq same] at read
    rw [headD_of_head?_eq stops]
    exact read
  | @groupTooDeep _ opening pending opens little =>
    refine ⟨[], rfl, fun other behind same => ?_⟩
    obtain rfl : opening = found := Option.some.inj stops
    obtain ⟨rest, rfl⟩ := List.head?_eq_some_iff.mp same
    exact .groupTooDeep opens little
  | @groupFails _ opening _ _ _ opens enough _ ih =>
    obtain ⟨taken, rfl, again⟩ := ih stops
    exact ⟨opening :: taken, rfl, fun other behind same =>
      .groupFails opens enough (again other behind same)⟩
  | @groupOpen allowance opening pending rest inner opens enough _ unclosed ih =>
    obtain ⟨taken, rfl, again⟩ := ih stops
    refine ⟨opening :: taken, rfl, fun other behind same => ?_⟩
    have read := Reads.groupOpen opens enough (again other behind same) (by rwa [same, ← stops])
    rw [headD_of_head?_eq same] at read
    rw [headD_of_head?_eq stops]
    exact read
  | @group _ opening closing pending rest inner opens enough _ closes ih =>
    obtain ⟨taken, rfl, again⟩ := ih rfl
    refine ⟨opening :: (taken ++ [closing]), by simp, fun other behind _ => ?_⟩
    have read := Reads.group opens enough (again other (closing :: behind) rfl) closes
    rwa [List.cons_append, List.append_assoc]
  | @primary _ pending rest outcome noOp _ ih =>
    obtain ⟨taken, rfl, again⟩ := ih stops
    refine ⟨taken, rfl, fun other behind same => .primary ?_ (again other behind same)⟩
    rwa [head?_append_of_head? (same.trans stops.symm)]
  | @unaryTooDeep op pending isOp =>
    refine ⟨[], rfl, fun other behind same => ?_⟩
    obtain rfl : op = found := Option.some.inj stops
    obtain ⟨rest, rfl⟩ := List.head?_eq_some_iff.mp same
    exact .unaryTooDeep isOp
  | @unary _ op _ _ _ isOp _ ih =>
    obtain ⟨taken, rfl, again⟩ := ih stops
    exact ⟨op :: taken, rfl, fun other behind same => .unary isOp (again other behind same)⟩
  | operandFails _ ih =>
    obtain ⟨taken, rfl, again⟩ := ih stops
    exact ⟨taken, rfl, fun other behind same => .operandFails (again other behind same)⟩
  | operand _ _ first chain =>
    obtain ⟨more, rfl, goesOn⟩ := chain stops
    obtain ⟨next, between⟩ := exists_head?_append stops
    obtain ⟨taken, rfl, again⟩ := first between
    exact ⟨taken ++ more, by simp, fun other behind same =>
      .operand (again.behind between stops same) (goesOn other behind same)⟩
  | @stop _ level left pending other =>
    refine ⟨[], rfl, fun last behind same => .stop ?_⟩
    rwa [List.nil_append, same, ← stops]
  | @rightFails _ level _ op _ _ _ isOp _ ih =>
    obtain ⟨taken, rfl, again⟩ := ih stops
    exact ⟨op :: taken, rfl, fun other behind same => .rightFails isOp (again other behind same)⟩
  | @binary _ level _ _ op _ _ _ _ isOp _ _ first chain =>
    obtain ⟨more, rfl, goesOn⟩ := chain stops
    obtain ⟨next, between⟩ := exists_head?_append stops
    obtain ⟨taken, rfl, again⟩ := first between
    exact ⟨op :: (taken ++ more), by simp, fun other behind same =>
      .binary isOp (again.behind between stops same) (goesOn other behind same)⟩

/-! ## Sources -/

/-- A source is parsed by its tokens and by the token that ends it. -/
theorem parse_congr {source other : String} (tokens : tokenize other = tokenize source)
    (ends : sourceEnd other = sourceEnd source) : parse other = parse source := by
  have same : TokenStream.ofSource other = TokenStream.ofSource source := by
    cases first : TokenStream.ofSource other with
    | mk pending last =>
      cases second : TokenStream.ofSource source with
      | mk ownPending ownLast =>
        unfold tokenize at tokens
        unfold sourceEnd at ends
        rw [first, second] at tokens ends
        exact congrArg₂ TokenStream.mk tokens ends
  rw [parse, parse, same]

/-- A source that goes on as another one does up to a token that the parser stops in front of is
parsed as that one is. -/
theorem parse_eq_of_readsUpTo {source other : String} {found : Token} {taken : List Token}
    {behind rest : List Token} {outcome : Except ParseError Expr}
    (read : Reads (sourceEnd source) nestingAllowance (.phrase .expression) (tokenize source)
      outcome (found :: rest))
    (again : ReadsUpTo found nestingAllowance (.phrase .expression) taken outcome)
    (goesOn : tokenize other = taken ++ found :: behind) : parse other = parse source := by
  have reread := again (sourceEnd other) (found :: behind) rfl
  rw [← goesOn] at reread
  rw [parse_of_reads read, parse_of_reads reread]
  cases outcome <;> rfl

/-- What the parser makes of a source comes from the tokens up to the one that it stops in front of:
any source that starts with the same tokens, its end included, is parsed as this one is. -/
theorem parse_eq_upTo {source other : String} {found : Token} {before rest : List Token}
    (split : tokenize source = before ++ rest)
    (left : (TokenStream.ofSource source).parse.2.pending = rest)
    (stops : rest.headD (sourceEnd source) = found)
    (starts : before ++ [found] <+: tokenize other ++ [sourceEnd other]) :
    parse other = parse source := by
  obtain ⟨outcome, own, read⟩ := reads_source source
  obtain rfl : own = rest := by rwa [parse_stream read] at left
  rcases List.prefix_concat_iff.mp starts with whole | ⟨behind, inside⟩
  · -- The token ends the other source, so it ends this one as well.
    obtain ⟨tokens, ends⟩ := List.append_inj' whole rfl
    cases own with
    | nil =>
      rw [List.append_nil] at split
      exact parse_congr (tokens.symm.trans split.symm)
        ((List.singleton_inj.mp ends).symm.trans stops.symm)
    | cons token rest =>
      have kind := kind_ne_endOfFile (read.rest_suffix.subset List.mem_cons_self)
      rw [show token = sourceEnd other from stops.trans (List.singleton_inj.mp ends)] at kind
      exact absurd (sourceEnd_kind other) kind
  · have mem : found ∈ tokenize other := by simp [← inside]
    cases own with
    | nil =>
      have kind := kind_ne_endOfFile mem
      rw [← stops] at kind
      exact absurd (sourceEnd_kind source) kind
    | cons token rest =>
      obtain rfl : token = found := stops
      obtain ⟨taken, ownSplit, again⟩ := read.upTo rfl
      obtain rfl : taken = before := List.append_cancel_right (ownSplit.symm.trans split)
      have goesOn : tokenize other = taken ++ token :: behind := by simp [← inside]
      exact parse_eq_of_readsUpTo read again goesOn

theorem exists_append_of_headD {rest : List Token} {last found : Token}
    (stops : rest.headD last = found) : ∃ after, rest ++ [last] = found :: after := by
  cases rest with
  | nil => exact ⟨[], congrArg ([·]) stops⟩
  | cons token behind => exact ⟨behind ++ [last], congrArg (· :: (behind ++ [last])) stops⟩

/-- The first problem is reported. Let a source be rejected for a token that may not stand where it
does. The parser stands in front of that token. The kinds of the tokens before it are those at the
start of an expression; with its own kind behind them, they are at the start of none, and if it ends
the source, they are no expression themselves. Any source that starts with the same tokens up to and
including this one has the same error. -/
theorem parse_first_misplaced {source : String} {error : SyntaxError}
    (failed : parse source = .error (.rejected error)) (misplaced : error.cause.misplaced = true) :
    ∃ before after,
      tokenize source ++ [sourceEnd source] = before ++ error.found :: after ∧
      (TokenStream.ofSource source).parse.2.pending ++ [sourceEnd source] =
        error.found :: after ∧
      (∃ more, Sentence (before.map Token.kind ++ more)) ∧
      (∀ more, ¬ Sentence ((before ++ [error.found]).map Token.kind ++ more)) ∧
      (error.found.kind = .endOfFile → ¬ Sentence (before.map Token.kind)) ∧
      ∀ other, before ++ [error.found] <+: tokenize other ++ [sourceEnd other] →
        parse other = .error (.rejected error) := by
  obtain ⟨before, split, found, stops⟩ := parse_stopsAt failed misplaced
  obtain ⟨live, refused⟩ := stops 0
  obtain ⟨after, stream⟩ := exists_append_of_headD found
  refine ⟨before, after, ?_, stream, viable_of_live live,
    not_sentence_of_refused live refused misplaced, not_sentence_of_endOfFile live refused,
    fun other starts => ?_⟩
  · rw [← stream, split, List.append_assoc]
  · rw [parse_eq_upTo split rfl found starts, failed]

/-- A number in a parenthesis where an operator or its end might stand. What is behind the number
makes no difference, not even whether the parenthesis is closed there. -/
theorem parse_first_misplaced_unclosed :
    parse "-(1 == 2 3) + 4" = .error (.rejected ⟨.missingParen, ⟨.integerLiteral, "3", 1⟩⟩) ∧
    (∃ more, Sentence
      ([.minus, .leftParen, .integerLiteral, .equals, .integerLiteral] ++ more)) ∧
    (∀ more, ¬ Sentence
      ([.minus, .leftParen, .integerLiteral, .equals, .integerLiteral, .integerLiteral] ++ more)) ∧
    parse "-(1 == 2 3 !" = .error (.rejected ⟨.missingParen, ⟨.integerLiteral, "3", 1⟩⟩) := by
  have failed : parse "-(1 == 2 3) + 4" =
      .error (.rejected ⟨.missingParen, ⟨.integerLiteral, "3", 1⟩⟩) := by decide +kernel
  obtain ⟨before, after, split, left, viable, stuck, -, again⟩ := parse_first_misplaced failed rfl
  have pending : (TokenStream.ofSource "-(1 == 2 3) + 4").parse.2.pending ++
      [sourceEnd "-(1 == 2 3) + 4"] =
      [⟨.integerLiteral, "3", 1⟩, ⟨.rightParen, ")", 1⟩, ⟨.plus, "+", 1⟩,
        ⟨.integerLiteral, "4", 1⟩, sourceEnd "-(1 == 2 3) + 4"] := by decide +kernel
  obtain rfl := (List.cons.inj (left.symm.trans pending)).2
  have tokens : tokenize "-(1 == 2 3) + 4" ++ [sourceEnd "-(1 == 2 3) + 4"] =
      [⟨.minus, "-", 1⟩, ⟨.leftParen, "(", 1⟩, ⟨.integerLiteral, "1", 1⟩, ⟨.equals, "==", 1⟩,
        ⟨.integerLiteral, "2", 1⟩] ++ ⟨.integerLiteral, "3", 1⟩ ::
        [⟨.rightParen, ")", 1⟩, ⟨.plus, "+", 1⟩, ⟨.integerLiteral, "4", 1⟩,
          sourceEnd "-(1 == 2 3) + 4"] := by decide +kernel
  obtain rfl := List.append_cancel_right (split.symm.trans tokens)
  exact ⟨failed, viable, stuck, again "-(1 == 2 3 !" (by decide +kernel)⟩

end Abacus
