import Abacus.Proofs.Answers
import Abacus.Proofs.Locality
import Abacus.Proofs.Nesting

/-!
# Tokens on other lines

The same tokens may stand on any lines of a source. Lines are kept in every token and come up in
every error, but nothing depends on them: reading looks at the kinds of tokens and at what literals
spell, and evaluation at the kinds and spellings of operators. So all layouts of a source come of
one reading, that of its tokens with their numbers in place of lines. What comes of a layout is that
reading with the numbers looked up again.

Results:
1. `evaluate_mapTokens`: what comes of changed tokens, if operators keep their kinds and spellings,
   is what came of the tree, with the token of an error changed.
2. `Expr.mem_operators_of_meaning`: a tree fails at an operator of its own.
3. `exists_reading`: the one reading of all layouts of a source.
4. `layouts_agree`: what all layouts of a source, and the text that its tree is written as, have in
   common.
-/

namespace Abacus

/-! ## Trees with other tokens -/

namespace Expr

variable {expr : Expr}

theorem mapTokens_mapTokens (f g : Token → Token) (expr : Expr) :
    (expr.mapTokens f).mapTokens g = expr.mapTokens (g ∘ f) := by
  induction expr with
  | integer | boolean | string | «foreign» => rfl
  | grouping token inner ih => rw [mapTokens, mapTokens, ih, mapTokens, Function.comp]
  | unary token operand ih => rw [mapTokens, mapTokens, ih, mapTokens, Function.comp]
  | binary token left right first second =>
    rw [mapTokens, mapTokens, first, second, mapTokens, Function.comp]

theorem inOrder_mapTokens (f : Token → Token) (expr : Expr) :
    (expr.mapTokens f).inOrder = expr.inOrder.map (Option.map f) := by
  induction expr with
  | integer | boolean | string | «foreign» => rfl
  | grouping token inner ih => simp [mapTokens, inOrder, ih]
  | unary token operand ih => simp [mapTokens, inOrder, ih]
  | binary token left right first second => simp [mapTokens, inOrder, first, second]

theorem token_mapTokens (f : Token → Token) (expr : Expr) :
    (expr.mapTokens f).token = expr.token.map f := by
  cases expr <;> rfl

theorem spineAllowance_mapTokens (f : Token → Token) (expr : Expr) (allowance : Nat) :
    (expr.mapTokens f).spineAllowance allowance = expr.spineAllowance allowance := by
  cases expr <;> rfl

theorem operators_subset_inOrder {token : Token} (mem : token ∈ expr.operators) :
    some token ∈ expr.inOrder := by
  induction expr with
  | integer | boolean | string | «foreign» => cases mem
  | grouping opening inner ih =>
    exact List.mem_cons_of_mem _ (List.mem_append_left _ (ih mem))
  | unary op operand ih =>
    rcases List.mem_cons.mp mem with rfl | below
    · exact List.mem_cons_self
    · exact List.mem_cons_of_mem _ (ih below)
  | binary op left right first second =>
    rcases List.mem_append.mp mem with before | behind
    · exact List.mem_append_left _ (first before)
    · refine List.mem_append_right _ ?_
      rcases List.mem_cons.mp behind with rfl | after
      · exact List.mem_cons_self
      · exact List.mem_cons_of_mem _ (second after)

theorem token_mem_inOrder {token : Token} (own : expr.token = .ok token) :
    some token ∈ expr.inOrder := by
  cases expr with
  | binary op left right =>
    cases own
    exact List.mem_append_right _ List.mem_cons_self
  | «foreign» => cases own
  | _ =>
    cases own
    exact List.mem_cons_self

end Expr

/-! ## Evaluation -/

/-- An error with the token it points at changed. -/
def EvalError.mapToken (f : Token → Token) (error : EvalError) : EvalError :=
  ⟨error.cause, f error.token⟩

/-- A failure with the token it points at changed. -/
def EvalFailure.mapToken (f : Token → Token) : EvalFailure → EvalFailure
  | .failed error => .failed (error.mapToken f)
  | .foreign failure => .foreign failure
  | .overlong => .overlong

/-- What came of an evaluation, with the token of a failure changed. -/
def renameResult (f : Token → Token) (result : Except EvalFailure Value × Writer) :
    Except EvalFailure Value × Writer :=
  (result.1.mapError (EvalFailure.mapToken f), result.2)

section
variable {f : Token → Token} {token : Token} {expr : Expr}

theorem Token.applyUnary_renamed (kind : (f token).kind = token.kind) (operand : Value) :
    (f token).applyUnary operand = (token.applyUnary operand).mapError (EvalError.mapToken f) := by
  unfold applyUnary
  rw [kind]
  cases token.kind.unaryOp? with
  | none => rfl
  | some op =>
    dsimp only
    cases op.apply operand <;> rfl

theorem Token.applyBinary_renamed (kind : (f token).kind = token.kind) (left right : Value) :
    (f token).applyBinary left right =
      (token.applyBinary left right).mapError (EvalError.mapToken f) := by
  unfold applyBinary
  rw [kind]
  cases token.kind.binaryOp? with
  | none => rfl
  | some op =>
    dsimp only
    cases op.apply left right <;> rfl

/-- The line of trace of a node that is written alike is the same. -/
theorem finish_renamed (f : Token → Token) {node other : Expr} (written : other.print = node.print)
    (applied : Except EvalError Value) (writer : Writer) :
    finish other (applied.mapError (EvalError.mapToken f)) writer =
      renameResult f (finish node applied writer) := by
  cases applied with
  | error error => rfl
  | ok value =>
    show trace other value writer = renameResult f (trace node value writer)
    unfold trace
    rw [written]
    split
    · rcases node.print with (_ | _) | _
      · rfl
      · rfl
      · cases value.display? <;> rfl
    · rfl

theorem Expr.KeepsOperators.print (kept : expr.KeepsOperators f) :
    (expr.mapTokens f).print = expr.print := by
  rw [Expr.print, Expr.print, Style.write_eq_layout, Style.write_eq_layout]
  exact Expr.layout_mapTokens Style.tree kept

/-- A link goes on alike from what came of its left operand, if its right one is evaluated alike. -/
theorem Link.resume_renamed {operand other : Evaluator} {left right : Expr}
    (kept : (Expr.binary token left right).KeepsOperators f)
    (alike : ∀ writer, other (right.mapTokens f) writer = renameResult f (operand right writer))
    (result : Except EvalFailure Value × Writer) :
    Link.resume other ⟨f token, left.mapTokens f, right.mapTokens f⟩ (renameResult f result) =
      renameResult f (Link.resume operand ⟨token, left, right⟩ result) := by
  obtain ⟨failure | value, between⟩ := result
  · rfl
  · show Link.resume other _ (.ok value, between) = _
    rw [resume, resume, alike between]
    cases operand right between with
    | mk outcome after =>
      cases outcome with
      | error failure => rfl
      | ok second =>
        have ended := finish_renamed f kept.print (token.applyBinary value second) after.dedent
        rw [← Token.applyBinary_renamed (Token.alike_of_lineless kept.binary.2.1).1] at ended
        exact ended

/-- Evaluation sees the kinds and the spellings of operators, and nothing else of any token. -/
theorem evaluateWithin_mapTokens (kept : expr.KeepsOperators f) (root : Token) (allowance : Nat)
    (writer : Writer) :
    evaluateWithin (f root) allowance (expr.mapTokens f) writer =
      renameResult f (evaluateWithin root allowance expr writer) := by
  induction expr generalizing allowance writer with
  | integer | boolean | string | «foreign» => cases allowance <;> rfl
  | grouping opening inner ih =>
    cases allowance with
    | zero => rfl
    | succ allowance => exact ih kept allowance writer
  | unary op operand ih =>
    cases allowance with
    | zero => rfl
    | succ allowance =>
      obtain ⟨own, below⟩ := kept.unary
      have inside := ih below allowance writer.indent
      rw [Expr.mapTokens, evaluateWithin, evaluateWithin]
      cases eq : evaluateWithin root allowance operand writer.indent with
      | mk outcome after =>
        rw [eq] at inside
        rw [Writer.indented_eq eq, Writer.indented_eq inside]
        cases outcome with
        | error failure => rfl
        | ok value =>
          have ended := finish_renamed f kept.print (op.applyUnary value) after.dedent
          rw [← Token.applyUnary_renamed (Token.alike_of_lineless own).1] at ended
          exact ended
  | binary op left right first second =>
    rcases allowance with _ | _ | allowance
    · rfl
    · rfl
    · obtain ⟨before, -, behind⟩ := kept.binary
      rw [Expr.mapTokens, evaluateWithin_binary, evaluateWithin_binary,
        Expr.spineAllowance_mapTokens, first before]
      exact Link.resume_renamed kept (fun start => second behind allowance start) _

/-- What comes of changed tokens is what came of the tree, with the token of an error changed. -/
theorem evaluate_mapTokens (kept : expr.KeepsOperators f) (writer : Writer) :
    evaluate (expr.mapTokens f) writer = renameResult f (evaluate expr writer) := by
  unfold evaluate
  rw [Expr.token_mapTokens]
  cases expr.token with
  | error failure => rfl
  | ok root => exact evaluateWithin_mapTokens kept root evaluationDepth writer

end

/-! ## Where evaluation fails -/

/-- What is wrong, without where it is. -/
def EvalError.problem (error : EvalError) : String :=
  error.cause.problem error.token.lexeme

section
variable {token : Token} {expr : Expr} {error : EvalError}

theorem token_of_mapError {applied : Except EvalError.Cause Value}
    (fails : applied.mapError (⟨·, token⟩) = .error error) : error.token = token := by
  cases applied with
  | error cause =>
    cases fails
    rfl
  | ok value => cases fails

theorem Token.token_of_applyUnary {operand : Value}
    (fails : token.applyUnary operand = .error error) : error.token = token := by
  unfold applyUnary at fails
  split at fails
  · cases fails
    rfl
  · exact token_of_mapError fails

theorem Token.token_of_applyBinary {left right : Value}
    (fails : token.applyBinary left right = .error error) : error.token = token := by
  unfold applyBinary at fails
  split at fails
  · cases fails
    rfl
  · exact token_of_mapError fails

/-- A tree without a value fails at an operator of its own. -/
theorem Expr.mem_operators_of_meaning (fails : expr.meaning = .error (.failed error)) :
    error.token ∈ expr.operators := by
  induction expr with
  | integer | boolean | string | «foreign» => cases fails
  | grouping token inner ih => exact ih fails
  | unary token operand ih =>
    cases below : operand.meaning with
    | error failure =>
      rw [meaning_operandFails below, ← below] at fails
      exact List.mem_cons_of_mem _ (ih fails)
    | ok value =>
      rw [meaning_unary below] at fails
      obtain ⟨own, applied, same⟩ := mapError_failed_eq_error.mp fails
      cases same
      rw [Token.token_of_applyUnary applied]
      exact List.mem_cons_self
  | binary token left right first second =>
    cases before : left.meaning with
    | error failure =>
      rw [meaning_leftFails before, ← before] at fails
      exact List.mem_append_left _ (first fails)
    | ok value =>
      refine List.mem_append_right _ ?_
      cases behind : right.meaning with
      | error failure =>
        rw [meaning_rightFails before behind, ← behind] at fails
        exact List.mem_cons_of_mem _ (second fails)
      | ok other =>
        rw [meaning_binary before behind] at fails
        obtain ⟨own, applied, same⟩ := mapError_failed_eq_error.mp fails
        cases same
        rw [Token.token_of_applyBinary applied]
        exact List.mem_cons_self

/-- Evaluation fails at an operator, or for its depth at the root. -/
theorem evaluate_failed {writer : Writer}
    (fails : (evaluate expr writer).1 = .error (.failed error)) :
    (expr.token = .ok error.token ∧ error.cause = .nestedTooDeeply) ∨
      error.token ∈ expr.operators := by
  unfold evaluate at fails
  cases own : expr.token with
  | error failure =>
    rw [own] at fails
    cases fails
  | ok root =>
    rw [own] at fails
    by_cases deep : (evaluateWithin root evaluationDepth expr writer).1 = tooDeep root
    · cases fails.symm.trans deep
      exact .inl ⟨rfl, rfl⟩
    · have clear : (evaluateWithin root evaluationDepth expr writer).1 ≠ .error .overlong :=
        fun overlong => by cases fails.symm.trans overlong
      rw [evaluateWithin_fst deep clear] at fails
      exact .inr (Expr.mem_operators_of_meaning fails)

/-- The token of a failed evaluation is one of the tree. -/
theorem mem_inOrder_of_evaluate {writer : Writer}
    (fails : (evaluate expr writer).1 = .error (.failed error)) :
    some error.token ∈ expr.inOrder := by
  rcases evaluate_failed fails with ⟨root, -⟩ | mem
  · exact Expr.token_mem_inOrder root
  · exact Expr.operators_subset_inOrder mem

/-- What is wrong does not change with the tokens, if operators are kept. -/
theorem problem_mapToken {f : Token → Token} (kept : expr.KeepsOperators f) {writer : Writer}
    (fails : (evaluate expr writer).1 = .error (.failed error)) :
    (error.mapToken f).problem = error.problem := by
  rcases evaluate_failed fails with ⟨-, deep⟩ | mem
  · rw [EvalError.problem, EvalError.problem, EvalError.mapToken, deep]
    rfl
  · have lexeme := (Token.alike_of_lineless (kept error.token mem)).2
    rw [EvalError.problem, EvalError.problem, EvalError.mapToken, lexeme]

end

/-! ## One reading of all layouts -/

/-- Tokens with their numbers in place of lines. -/
def numbered (tokens : List Token) : List Token :=
  tokens.mapIdx fun number token => { token with line := number }

/-- A token put on the line of the one that has its number. -/
def Token.lookedUp (tokens : List Token) (token : Token) : Token :=
  { token with line := (tokens.map Token.line).getD token.line.toNat 0 }

theorem Expr.keepsOperators_lookedUp (tokens : List Token) (expr : Expr) :
    expr.KeepsOperators (Token.lookedUp tokens) :=
  fun _ _ => rfl

/-- The lines of tokens are found by their numbers. -/
theorem numbered_lookedUp {tokens other : List Token}
    (same : other.map Token.lineless = tokens.map Token.lineless) :
    (numbered tokens).map (Token.lookedUp other) = other := by
  refine List.ext_getElem? fun place => ?_
  have here : (other.map Token.lineless)[place]? = (tokens.map Token.lineless)[place]? := by
    rw [same]
  rw [List.getElem?_map, List.getElem?_map] at here
  rw [numbered, List.getElem?_map, List.getElem?_mapIdx]
  cases found : other[place]? with
  | none =>
    rw [found] at here
    rw [Option.map_eq_none_iff.mp here.symm]
    rfl
  | some token =>
    rw [found] at here
    obtain ⟨own, eq, same⟩ := Option.map_eq_some_iff.mp here.symm
    obtain ⟨kind, lexeme⟩ := Token.alike_of_lineless same
    have line : (other.map Token.line).getD place 0 = token.line := by
      rw [List.getD_eq_getElem?_getD, List.getElem?_map, found]
      rfl
    rw [eq]
    show some { own with line := (other.map Token.line).getD place 0 } = some token
    rw [line, kind, lexeme]

/-- The tokens of a source and its end. -/
def allTokens (source : String) : List Token :=
  tokenize source ++ [sourceEnd source]

/-- Another source has the same tokens, on whatever lines. -/
def Reflows (source other : String) : Prop :=
  (tokenize other).map Token.lineless = (tokenize source).map Token.lineless

theorem numbered_allTokens {source other : String} (same : Reflows source other) :
    (numbered (allTokens source)).map (Token.lookedUp (allTokens other)) = allTokens other := by
  refine numbered_lookedUp ?_
  rw [allTokens, allTokens, List.map_append, List.map_append, same]
  rfl

/-- A token moved down by a line, unless it is one of some tokens. -/
def Token.movedUnless (tokens : List Token) (token : Token) : Token :=
  if token ∈ tokens then token else token.below 1

/-- A token that is rejected is one of those that were there, for no other token makes a difference
to reading. -/
theorem Reads.found_mem {last : Token} {allowance : Nat} {phrase : Phrase}
    {pending rest : List Token} {error : SyntaxError}
    (read : Reads last allowance (.phrase phrase) pending (.error (.rejected error)) rest) :
    error.found ∈ pending ++ [last] := by
  have fixed : ∀ token ∈ pending ++ [last],
      Token.movedUnless (pending ++ [last]) token = token := fun token mem => if_pos mem
  have fixedPending : ∀ token ∈ pending, Token.movedUnless (pending ++ [last]) token = token :=
    fun token mem => fixed token (List.mem_append_left _ mem)
  have kept : ∀ token ∈ pending, token.KeptBy (Token.movedUnless (pending ++ [last])) :=
    fun token mem => Token.keptBy_of_lineless (congrArg Token.lineless (fixedPending token mem))
  have again := read.renamed kept
  rw [List.map_congr_left fixedPending, List.map_id', fixed last (by simp)] at again
  have outcomes := congrArg Prod.fst (read.reader_eq.symm.trans again.reader_eq)
  have own : error.found = Token.movedUnless (pending ++ [last]) error.found :=
    congrArg SyntaxError.found (ParseError.rejected.inj (Except.error.inj outcomes))
  by_contra absent
  have moved : error.found = error.found.below 1 := own.trans (if_neg absent)
  have line : error.found.line = error.found.line + 1 := congrArg Token.line moved
  omega

/-- All layouts of a source come of one reading, that of its tokens with their numbers in place of
lines. -/
theorem exists_reading (source : String) :
    ∃ reading : Except ParseError Expr,
      (∀ error, reading = .error (.rejected error) →
        error.found ∈ numbered (allTokens source)) ∧
      ∀ other, Reflows source other →
        parse other = renameOutcome (Token.lookedUp (allTokens other)) reading := by
  obtain ⟨pending, last, split⟩ : ∃ pending last,
      numbered (allTokens source) = pending ++ [last] := by
    rw [numbered, allTokens, List.mapIdx_concat]
    exact ⟨_, _, rfl⟩
  obtain ⟨outcome, rest, read⟩ : ∃ outcome rest,
      Reads last nestingAllowance (.phrase .expression) pending outcome rest :=
    ⟨_, _, reads_reader _ _ _ _⟩
  have all : ∀ other, Reflows source other → Reads (sourceEnd other) nestingAllowance
      (.phrase .expression) (tokenize other)
      (renameOutcome (Token.lookedUp (allTokens other)) outcome)
      (rest.map (Token.lookedUp (allTokens other))) := by
    intro other same
    have found := numbered_allTokens same
    rw [split, List.map_append] at found
    obtain ⟨tokens, ends⟩ := List.append_inj' found rfl
    rw [← tokens, ← (List.singleton_inj.mp ends)]
    exact read.renamed fun token _ => Token.keptBy_of_lineless rfl
  rw [split]
  match outcome, rest with
  | .error error, rest =>
    refine ⟨.error error, fun own eq => ?_, fun other same => parse_of_reads (all other same)⟩
    cases eq
    exact read.found_mem
  | .ok expr, [] =>
    exact ⟨.ok expr, nofun, fun other same => parse_of_reads (all other same)⟩
  | .ok expr, token :: rest =>
    refine ⟨.error (.rejected ⟨.trailingToken, token⟩), fun own eq => ?_,
      fun other same => parse_of_reads (all other same)⟩
    cases eq
    exact List.mem_append_left _ (read.rest_suffix.subset List.mem_cons_self)

/-! ## What layouts have in common -/

/-- Whether a failure is an error of evaluation, which is answered. -/
inductive EvalFailure.IsError : EvalFailure → Prop
  | intro (error : EvalError) : IsError (.failed error)

/-- What is told of an evaluation apart from lines: a value, or what is wrong and the place, among
the tokens of the tree from left to right, of the one it is wrong at. -/
inductive Verdict where
  | value (value : Value)
  | problem (text : String) (place : Nat)
  deriving DecidableEq, Repr

/-- `expr.Tells writer verdict after`: the evaluation of a tree tells a verdict and takes one writer
to another. -/
inductive Expr.Tells (expr : Expr) (writer : Writer) : Verdict → Writer → Prop
  | value {value : Value} {after : Writer} :
      evaluate expr writer = (.ok value, after) → expr.Tells writer (.value value) after
  | problem {error : EvalError} {text : String} {place : Nat} {after : Writer} :
      evaluate expr writer = (.error (.failed error), after) →
      error.message = error.token.report text →
      expr.inOrder[place]? = some (some error.token) →
      expr.Tells writer (.problem text place) after

/-- Whatever lines the tokens of a tree are put on, it tells one verdict and leaves one trace. -/
theorem exists_verdict {tree : Expr} {writer : Writer}
    (answered : ∀ failure, (evaluate tree writer).1 = .error failure → failure.IsError) :
    ∃ verdict after, ∀ tokens,
      (tree.mapTokens (Token.lookedUp tokens)).Tells writer verdict after := by
  have renamed := fun tokens => evaluate_mapTokens (tree.keepsOperators_lookedUp tokens) writer
  match evaluated : evaluate tree writer with
  | (.ok value, after) =>
    rw [evaluated] at renamed
    exact ⟨.value value, after, fun tokens => .value (renamed tokens)⟩
  | (.error (.failed error), after) =>
    have fails : (evaluate tree writer).1 = .error (.failed error) := by rw [evaluated]
    obtain ⟨place, found⟩ := List.getElem?_of_mem (mem_inOrder_of_evaluate fails)
    rw [evaluated] at renamed
    refine ⟨.problem error.problem place, after, fun tokens => .problem (renamed tokens) ?_ ?_⟩
    · rfl
    · rw [Expr.inOrder_mapTokens, List.getElem?_map, found]
      rfl
  | (.error (.foreign _), after) | (.error .overlong, after) =>
    rw [evaluated] at answered
    cases answered _ rfl

/-- Two runs end alike: with the same value, or with errors that are worded alike behind the place
that they name. -/
inductive EndAlike : Except RunFailure Value → Except RunFailure Value → Prop
  | value (value : Value) : EndAlike (.ok value) (.ok value)
  | problem {first second : EvalError} {text : String} :
      first.message = first.token.report text → second.message = second.token.report text →
      EndAlike (.error (.evaluation (.failed first))) (.error (.evaluation (.failed second)))

/-- Trees that a change of tokens makes one, while it keeps their operators, are evaluated alike. -/
theorem endAlike_of_mapTokens {f : Token → Token} {first second : Expr}
    (keptFirst : first.KeepsOperators f) (keptSecond : second.KeepsOperators f)
    (one : first.mapTokens f = second.mapTokens f) {writer : Writer}
    (answered : ∀ failure, (evaluate first writer).1 = .error failure → failure.IsError) :
    EndAlike ((evaluate first writer).1.mapError .evaluation)
        ((evaluate second writer).1.mapError .evaluation) ∧
      (evaluate second writer).2 = (evaluate first writer).2 := by
  have results : renameResult f (evaluate first writer) =
      renameResult f (evaluate second writer) := by
    rw [← evaluate_mapTokens keptFirst, ← evaluate_mapTokens keptSecond, one]
  obtain ⟨outcomes, writers⟩ := Prod.mk.inj results
  refine ⟨?_, writers.symm⟩
  match own : (evaluate first writer).1, other : (evaluate second writer).1 with
  | .ok value, .ok value' =>
    rw [own, other] at outcomes
    cases outcomes
    exact .value value
  | .error (.failed error), .error (.failed error') =>
    rw [own, other] at outcomes
    have renamed : error.mapToken f = error'.mapToken f :=
      EvalFailure.failed.inj (Except.error.inj outcomes)
    have problems : error.problem = error'.problem := by
      rw [← problem_mapToken keptFirst own, renamed, problem_mapToken keptSecond other]
    exact .problem rfl (congrArg error'.token.report problems.symm)
  | .error (.foreign _), _ | .error .overlong, _ => cases answered _ own
  | .ok _, .error _ | .error (.failed _), .ok _ | .error (.failed _), .error (.foreign _)
  | .error (.failed _), .error .overlong =>
    rw [own, other] at outcomes
    cases outcomes

/-- A source that is accepted comes to what its tree is evaluated to. -/
theorem run_eq_of_parse {source : String} {expr : Expr} (parsed : parse source = .ok expr)
    (writer : Writer) :
    run source writer =
      ((evaluate expr writer).1.mapError .evaluation, (evaluate expr writer).2) := by
  rw [run, parsed]

theorem answered_of_parse {source : String} {expr : Expr} (parsed : parse source = .ok expr)
    (writer : Writer) (failure : EvalFailure) (fails : (evaluate expr writer).1 = .error failure) :
    failure.IsError := by
  rcases evaluate_cases_of_parse parsed writer with
    ⟨value, after, evaluated⟩ | ⟨error, after, evaluated⟩
  · rw [evaluated] at fails
    cases fails
  · rw [evaluated] at fails
    cases fails
    exact .intro error

/-- The text that the tree of a source is written as runs like the source. -/
theorem run_render {source : String} {expr : Expr} (parsed : parse source = .ok expr) :
    ∃ text, expr.render = .ok text ∧ ∀ writer,
      EndAlike (run source writer).1 (run text writer).1 ∧
        (run text writer).2 = (run source writer).2 := by
  obtain ⟨text, written, same, fits⟩ :=
    ((derives_of_parse parsed).rereads (tokenize_spelled source) (fits_of_parse parsed)).tokenize
  obtain ⟨again, reread, plain⟩ := parse_of_plain_eq parsed same fits
  refine ⟨text, by rw [Expr.render, Style.write_eq_layout, written], fun writer => ?_⟩
  rw [run_eq_of_parse parsed, run_eq_of_parse reread]
  exact endAlike_of_mapTokens (derives_of_parse parsed).keepsOperators_plain
    (derives_of_parse reread).keepsOperators_plain plain.symm (answered_of_parse parsed writer)

/-- Lines do not matter. A source and all others with the same tokens are rejected for one cause at
the token in one place, or fail for one length of a numeral, or are accepted with one tree but for
the lines of tokens. Then, on any writer, all these trees tell one verdict and leave the same trace
behind; and the source and the text that its tree is written as end alike, with the same trace. -/
theorem layouts_agree (source : String) :
    (∃ (cause : SyntaxError.Cause) (place : Nat), ∀ other, Reflows source other → ∃ found,
      (allTokens other)[place]? = some found ∧ parse other = .error (.rejected ⟨cause, found⟩)) ∨
    (∃ failure, ∀ other, Reflows source other → parse other = .error (.numeralTooLong failure)) ∨
    ∃ tree text, parse source = .ok tree ∧ tree.render = .ok text ∧ ∀ writer,
      (∃ verdict after, ∀ other, Reflows source other → ∃ again, parse other = .ok again ∧
        again.mapTokens Token.lineless = tree.mapTokens Token.lineless ∧
        again.Tells writer verdict after) ∧
      EndAlike (run source writer).1 (run text writer).1 ∧
      (run text writer).2 = (run source writer).2 := by
  obtain ⟨reading, rejected, all⟩ := exists_reading source
  match reading with
  | .error (.rejected ⟨cause, found⟩) =>
    obtain ⟨place, here⟩ := List.getElem?_of_mem (rejected ⟨cause, found⟩ rfl)
    refine .inl ⟨cause, place, fun other same => ⟨_, ?_, all other same⟩⟩
    have looked := congrArg (·[place]?) (numbered_allTokens same)
    rw [List.getElem?_map, here] at looked
    exact looked.symm
  | .error (.numeralTooLong failure) => exact .inr (.inl ⟨failure, all⟩)
  | .ok base =>
    have parsed := all source rfl
    obtain ⟨text, written, runs⟩ := run_render parsed
    refine .inr (.inr ⟨_, text, parsed, written, fun writer => ⟨?_, runs writer⟩⟩)
    have answered : ∀ failure, (evaluate base writer).1 = .error failure → failure.IsError := by
      intro failure fails
      have renamed := congrArg Prod.fst
        (evaluate_mapTokens (base.keepsOperators_lookedUp (allTokens source)) writer)
      rw [renameResult, fails] at renamed
      have isError := answered_of_parse parsed writer _ renamed
      cases failure with
      | failed error => exact .intro error
      | «foreign» | overlong => cases isError
    obtain ⟨verdict, after, tells⟩ := exists_verdict answered
    refine ⟨verdict, after, fun other same => ⟨_, all other same, ?_, tells _⟩⟩
    rw [Expr.mapTokens_mapTokens, Expr.mapTokens_mapTokens]
    rfl

end Abacus
