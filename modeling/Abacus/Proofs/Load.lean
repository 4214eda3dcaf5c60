import Mathlib.Algebra.GroupWithZero.Nat
import Mathlib.Data.List.Infix
import Abacus.Proofs.Nesting
import Abacus.Proofs.Shape

/-!
# How much is open at a time

Two things nest in a source: parentheses that are open, and operators in front of an operand that
is not complete yet. A pass over the tokens counts both. What the parser takes of its allowance at a
token is the load at that token, each parenthesis weighted with its cost; a chain of operators, of
whatever level, adds nothing, since the parser goes on with it in a loop. The calls that evaluation
has open are bounded by the same load with another weight: between one parenthesis and the next lies
at most one spine of each level.

Results:
1. `Reads.exceeds_of_tooDeep`: where the parser gives up, the load has risen by more than its
   allowance.
2. `Derives.nesting_le`: the load of some tokens bounds the nesting of their tree.
3. `parse_of_loads`: where the load stays small, chains of any length are parsed and evaluated.
-/

namespace Abacus

/-! ## The pass -/

/-- What is open at a point of a pass over tokens. -/
inductive Load where
  /-- An operand is expected behind so many operators in front of it. For each open parenthesis, the
  innermost first, so many operators stand in front of it. -/
  | expecting (ahead : Nat) (opened : List Nat)
  /-- An operand is complete, and with it the operators in front of it. -/
  | complete (opened : List Nat)
  deriving DecidableEq, Repr

namespace Load

/-- Passes over one token. -/
def step : Load → Token → Load
  | expecting ahead opened, token =>
    match token.kind with
    | .bang | .minus => expecting (ahead + 1) opened
    | .leftParen => expecting 0 (ahead :: opened)
    | _ => complete opened
  | complete opened, token =>
    if token.kind = .rightParen then complete opened.tail else expecting 0 opened

/-- Passes over some tokens. -/
def run (start : Load) (tokens : List Token) : Load :=
  tokens.foldl step start

/-- How many parentheses are open. -/
def parens : Load → Nat
  | expecting _ opened | complete opened => opened.length

/-- How many operators in front of an operand wait for it to be complete, also those in front of
open parentheses. -/
def operators : Load → Nat
  | expecting ahead opened => ahead + opened.sum
  | complete opened => opened.sum

/-- What is open, where a parenthesis counts as much as so many operators. -/
def weight (cost : Nat) (load : Load) : Nat :=
  cost * load.parens + load.operators

/-- The greatest weight that a pass over some tokens comes to. -/
def peak (cost : Nat) (start : Load) : List Token → Nat
  | [] => start.weight cost
  | token :: rest => max (start.weight cost) ((start.step token).peak cost rest)

section
variable {cost ahead : Nat} {opened : List Nat} {token : Token} {start : Load}
  {before after tokens : List Token}

@[simp] theorem run_cons (start : Load) (token : Token) (rest : List Token) :
    start.run (token :: rest) = (start.step token).run rest := rfl

theorem run_append (start : Load) (before after : List Token) :
    start.run (before ++ after) = (start.run before).run after :=
  List.foldl_append

/-! ### Steps -/

theorem step_unary (isOp : token.kind.unaryOp?.isSome = true) :
    (expecting ahead opened).step token = expecting (ahead + 1) opened := by
  obtain ⟨kind, lexeme, line⟩ := token
  cases kind <;> first | rfl | cases isOp

theorem step_opening (opens : token.kind = .leftParen) :
    (expecting ahead opened).step token = expecting 0 (ahead :: opened) := by
  rw [step, opens]

theorem step_literal {expr : Expr} (literal : token.literal? = some expr) :
    (expecting ahead opened).step token = complete opened := by
  obtain ⟨kind, lexeme, line⟩ := token
  cases kind <;> first | rfl | cases literal

theorem step_binary {level : Level} (isOp : token.kind.level? = some level) :
    (complete opened).step token = expecting 0 opened :=
  if_neg (Token.Kind.ne_of_level? isOp rfl)

theorem step_closing (closes : token.kind = .rightParen) :
    (complete (ahead :: opened)).step token = complete opened :=
  if_pos closes

/-! ### Weights -/

@[simp] theorem weight_unary :
    (expecting (ahead + 1) opened).weight cost = (expecting ahead opened).weight cost + 1 := by
  simp only [weight, parens, operators]
  omega

@[simp] theorem weight_opening :
    (expecting 0 (ahead :: opened)).weight cost = (expecting ahead opened).weight cost + cost := by
  simp only [weight, parens, operators, List.length_cons, List.sum_cons, Nat.mul_succ]
  omega

@[simp] theorem weight_complete :
    (complete opened).weight cost = (expecting 0 opened).weight cost := by
  simp only [weight, parens, operators]
  omega

/-! ### Peaks -/

theorem weight_le_peak (cost : Nat) (start : Load) (tokens : List Token) :
    start.weight cost ≤ start.peak cost tokens := by
  cases tokens with
  | nil => exact Nat.le_refl _
  | cons token rest => exact Nat.le_max_left _ _

theorem peak_step_le (cost : Nat) {next : Load} (leads : start.step token = next)
    (rest : List Token) : next.peak cost rest ≤ start.peak cost (token :: rest) :=
  leads ▸ Nat.le_max_right _ _

theorem peak_run_le (cost : Nat) {next : Load} (leads : start.run before = next)
    (after : List Token) : next.peak cost after ≤ start.peak cost (before ++ after) := by
  induction before generalizing start with
  | nil => exact Nat.le_of_eq (congrArg (peak cost · after) leads.symm)
  | cons token rest ih => exact Nat.le_trans (ih leads) (peak_step_le cost rfl _)

theorem peak_append_le (cost : Nat) (start : Load) (before after : List Token) :
    start.peak cost before ≤ start.peak cost (before ++ after) := by
  induction before generalizing start with
  | nil => exact start.weight_le_peak cost after
  | cons token rest ih =>
    exact Nat.max_le.mpr
      ⟨weight_le_peak cost start _, Nat.le_trans (ih _) (peak_step_le cost rfl _)⟩

/-- A bound on the weights behind all prefixes is one on the greatest weight. -/
theorem peak_le {bound : Nat}
    (le : ∀ front, front <+: tokens → (start.run front).weight cost ≤ bound) :
    start.peak cost tokens ≤ bound := by
  induction tokens generalizing start with
  | nil => exact le [] List.prefix_rfl
  | cons token rest ih =>
    refine Nat.max_le.mpr ⟨le [] (List.nil_prefix), ih fun front leads => ?_⟩
    exact le (token :: front) (List.cons_prefix_cons.mpr ⟨rfl, leads⟩)

end

end Load

/-- The load that a phrase starts with. A level starts behind no operator in front of an operand. -/
def Phrase.load : Phrase → Nat → List Nat → Load
  | .level _, _, opened => .expecting 0 opened
  | .unary, ahead, opened | .primary, ahead, opened => .expecting ahead opened

/-- The load that a task starts with. -/
def Task.load : Task → Nat → List Nat → Load
  | .phrase own => own.load
  | .chain _ _ => fun _ opened => .complete opened

section
variable (level : Level) (ahead : Nat) (opened : List Nat)

@[simp] theorem Phrase.load_level : (Phrase.level level).load ahead opened = .expecting 0 opened :=
  rfl

@[simp] theorem Phrase.load_unary : Phrase.unary.load ahead opened = .expecting ahead opened := rfl

@[simp] theorem Phrase.load_primary : Phrase.primary.load ahead opened = .expecting ahead opened :=
  rfl

@[simp] theorem Phrase.load_operand : level.operand.load 0 opened = .expecting 0 opened := by
  cases level <;> rfl

@[simp] theorem Task.load_phrase (own : Phrase) :
    (Task.phrase own).load ahead opened = own.load ahead opened := rfl

@[simp] theorem Task.load_chain (left : Expr) :
    (Task.chain level left).load ahead opened = .complete opened := rfl

end

/-- A pass goes over a phrase as over one operand. -/
theorem Derives.load_run {phrase : Phrase} {tokens : List Token} {expr : Expr}
    (h : Derives phrase tokens expr) (ahead : Nat) (opened : List Nat) :
    (phrase.load ahead opened).run tokens = .complete opened := by
  induction h generalizing ahead opened with
  | literal literal => exact Load.step_literal literal
  | @grouping opening closing tokens inner opens _ closes ih =>
    have inside : (Load.expecting 0 (ahead :: opened)).run tokens = .complete (ahead :: opened) :=
      ih 0 (ahead :: opened)
    rw [Phrase.load_primary, Load.run_cons, Load.step_opening opens, Load.run_append, inside]
    exact Load.step_closing closes
  | primary _ ih => exact ih ahead opened
  | unary listed _ ih =>
    rw [Phrase.load_unary, Load.run_cons, Load.step_unary (mem_unaryOperators_iff.mp listed)]
    exact ih (ahead + 1) opened
  | @operand level _ _ _ ih =>
    have below := ih 0 opened
    rwa [Phrase.load_operand] at below
  | @binary level op before after _ _ _ listed _ first second =>
    have isOp := Level.mem_operators_iff.mp listed
    have left : (Load.expecting 0 opened).run before = .complete opened := first 0 opened
    have right := second 0 opened
    rw [Phrase.load_operand] at right
    rw [Phrase.load_level, Load.run_append, left, Load.run_cons, Load.step_binary isOp, right]

/-! ## The allowance of the parser -/

/-- Whether the weight over some tokens rises by more than an allowance. -/
def Load.Exceeds (start : Load) (allowance : Nat) (tokens : List Token) : Prop :=
  allowance + start.weight groupCost < start.peak groupCost tokens

namespace Load

variable {allowance less : Nat} {token : Token} {before after rest : List Token}
  {start next : Load}

/-- A token that raises the weight by more than the allowance. -/
theorem exceeds_here (leads : start.step token = next)
    (rises : allowance + start.weight groupCost < next.weight groupCost) :
    start.Exceeds allowance (token :: rest) :=
  Nat.lt_of_lt_of_le rises (Nat.le_trans (next.weight_le_peak groupCost rest)
    (peak_step_le groupCost leads rest))

/-- What some tokens raise the weight by, they may take off the allowance. -/
theorem Exceeds.prepend (h : next.Exceeds less after) (leads : start.run before = next)
    (rises : allowance + start.weight groupCost ≤ less + next.weight groupCost) :
    start.Exceeds allowance (before ++ after) :=
  Nat.lt_of_le_of_lt rises (Nat.lt_of_lt_of_le h (peak_run_le groupCost leads after))

theorem Exceeds.cons (h : next.Exceeds less rest) (leads : start.step token = next)
    (rises : allowance + start.weight groupCost ≤ less + next.weight groupCost) :
    start.Exceeds allowance (token :: rest) :=
  @prepend allowance less [token] rest start next h leads rises

end Load

/-- Where the parser gives up, the load has risen by more than its allowance. -/
theorem Reads.exceeds_of_tooDeep {last : Token} {allowance : Nat} {task : Task}
    {pending rest : List Token} {outcome : Except ParseError Expr}
    (h : Reads last allowance task pending outcome rest) {found : Token}
    (deep : outcome = .error (.rejected ⟨.nestedTooDeeply, found⟩)) (ahead : Nat)
    (opened : List Nat) : (task.load ahead opened).Exceeds allowance pending := by
  induction h generalizing ahead opened with
  | literal | missing | groupOpen | group | stop => cases deep
  | unfit unfit =>
    obtain ⟨-, ⟨-, -, rfl⟩ | ⟨-, rfl⟩⟩ := Token.unfit?_cases unfit
    · cases deep
    · cases deep
  | groupTooDeep opens little =>
    refine Load.exceeds_here (Load.step_opening opens) ?_
    simp only [Task.load_phrase, Phrase.load_primary, Load.weight_opening]
    omega
  | groupFails opens enough _ ih =>
    refine (ih deep 0 (ahead :: opened)).cons (Load.step_opening opens) ?_
    simp only [Phrase.expression, Task.load_phrase, Phrase.load_level, Phrase.load_primary,
      Load.weight_opening]
    omega
  | primary _ _ ih => exact ih deep ahead opened
  | unaryTooDeep isOp => exact Load.exceeds_here (Load.step_unary isOp) (by simp)
  | @unary _ _ _ _ outcome isOp _ ih =>
    cases outcome with
    | ok operand => cases deep
    | error error =>
      refine (ih deep (ahead + 1) opened).cons (Load.step_unary isOp) ?_
      simp only [Task.load_phrase, Phrase.load_unary, Load.weight_unary]
      omega
  | @operandFails _ level _ _ _ _ ih =>
    have fails := ih deep 0 opened
    rwa [Task.load_phrase, Phrase.load_operand] at fails
  | @operand _ level _ _ _ _ _ first _ _ chain =>
    obtain ⟨tokens, rfl, derives⟩ := first.derived rfl
    have taken := derives.load_run 0 opened
    rw [Phrase.load_operand] at taken
    exact (chain deep 0 opened).prepend taken (by simp)
  | @rightFails _ level _ _ _ _ _ isOp _ ih =>
    have fails := ih deep 0 opened
    rw [Task.load_phrase, Phrase.load_operand] at fails
    exact fails.cons (Load.step_binary isOp) (by simp)
  | @binary allowance level _ _ _ _ _ _ _ isOp right _ _ chain =>
    obtain ⟨tokens, rfl, derives⟩ := right.derived rfl
    have taken := derives.load_run 0 opened
    rw [Phrase.load_operand] at taken
    have goesOn : (Load.expecting 0 opened).Exceeds allowance _ :=
      (chain deep 0 opened).prepend taken (by simp)
    exact goesOn.cons (Load.step_binary isOp) (by simp)

/-! ## The nesting of trees -/

/-- How many calls of evaluation may lie around what is inside a parenthesis, up to the next one:
one for the parenthesis, and two for the spine of each level. -/
def groupCalls : Nat := 9

theorem Expr.tightness_of_isBinary {expr : Expr} (other : expr.isBinary = false) :
    Phrase.unary.tightness ≤ expr.phrase.tightness := by
  cases expr with
  | binary => cases other
  | unary => exact Nat.le_refl _
  | integer | boolean | string | grouping | «foreign» => exact Nat.le_succ _

/-- How many levels of operators between operands there are from that of a tree on. -/
def Expr.levels (expr : Expr) : Nat :=
  Phrase.unary.tightness - expr.phrase.tightness

/-- What bounds the operands of an operator bounds its node, with two calls more for its level: a
left operand goes on with the spine or is tighter than every level, and a right one is tighter than
the level. -/
theorem Expr.nesting_binary_le {op : Token} {level : Level} {left right : Expr}
    {weight bound : Nat} (isOp : op.kind.level? = some level)
    (leftTight : level.rank ≤ left.phrase.tightness)
    (rightTight : level.rank < right.phrase.tightness)
    (inLeft : left.nesting + weight ≤ bound + 2 * left.levels)
    (inRight : right.nesting + weight ≤ bound + 2 * right.levels) :
    (Expr.binary op left right).nesting + weight ≤
      bound + 2 * (Expr.binary op left right).levels := by
  have rank : level.rank < Phrase.unary.tightness := by cases level <;> decide
  have levels : (Expr.binary op left right).levels = Phrase.unary.tightness - level.rank := by
    rw [Expr.levels, Expr.phrase_binary isOp]
    rfl
  rw [levels, nesting]
  unfold Expr.levels at inLeft inRight
  cases own : left.isBinary with
  | true =>
    rw [if_pos rfl]
    omega
  | false =>
    have leftTighter := Expr.tightness_of_isBinary own
    rw [if_neg Bool.false_ne_true]
    omega

theorem Token.nesting_literal {token : Token} {expr : Expr} (h : token.literal? = some expr) :
    expr.nesting = 1 := by
  obtain ⟨kind, lexeme, line⟩ := token
  cases kind <;> cases h <;> rfl

/-- The load of some tokens bounds the nesting of their tree, if there may be two more calls for
each level from that of the tree on. -/
theorem Derives.nesting_le {phrase : Phrase} {tokens : List Token} {expr : Expr}
    (h : Derives phrase tokens expr) (ahead : Nat) (opened : List Nat) :
    expr.nesting + (phrase.load ahead opened).weight groupCalls ≤
      (phrase.load ahead opened).peak groupCalls tokens + 1 + 2 * expr.levels := by
  induction h generalizing ahead opened with
  | @literal token expr literal =>
    have top := (Phrase.primary.load ahead opened).weight_le_peak groupCalls [token]
    rw [Token.nesting_literal literal]
    omega
  | @grouping opening closing tokens inner opens _ closes ih =>
    have inside := ih 0 (ahead :: opened)
    have opensInto : (Load.expecting ahead opened).step opening = .expecting 0 (ahead :: opened) :=
      Load.step_opening opens
    have longer := Load.peak_append_le groupCalls (.expecting 0 (ahead :: opened)) tokens [closing]
    have within := Load.peak_step_le groupCalls opensInto (tokens ++ [closing])
    have levels : inner.levels ≤ 4 := Nat.sub_le _ _
    rw [Phrase.expression, Phrase.load_level, Load.weight_opening] at inside
    rw [Expr.nesting, Phrase.load_primary]
    unfold groupCalls at *
    omega
  | primary _ ih => exact ih ahead opened
  | @unary op tokens operand listed operandDerives ih =>
    have below := ih (ahead + 1) opened
    have opensInto : (Load.expecting ahead opened).step op = .expecting (ahead + 1) opened :=
      Load.step_unary (mem_unaryOperators_iff.mp listed)
    have within := Load.peak_step_le groupCalls opensInto tokens
    have tight := operandDerives.shaped.2
    rw [Phrase.load_unary, Load.weight_unary] at below
    rw [Expr.nesting, Phrase.load_unary]
    unfold Expr.levels at *
    omega
  | @operand level _ _ _ ih =>
    have below := ih 0 opened
    rwa [Phrase.load_operand] at below
  | @binary level op before after left right first listed second ihLeft ihRight =>
    have isOp := Level.mem_operators_iff.mp listed
    have inLeft := ihLeft 0 opened
    have inRight := ihRight 0 opened
    rw [Phrase.load_level] at inLeft
    rw [Phrase.load_operand] at inRight
    have whole := Load.peak_append_le groupCalls (.expecting 0 opened) before (op :: after)
    have goesOn : (Load.expecting 0 opened).run before = .complete opened :=
      first.load_run 0 opened
    have behind := Load.peak_run_le groupCalls goesOn (op :: after)
    have back : (Load.complete opened).step op = .expecting 0 opened := Load.step_binary isOp
    have operand := Load.peak_step_le groupCalls back after
    have rightTight := second.shaped.2
    rw [Phrase.tightness_operand] at rightTight
    rw [Phrase.load_level]
    exact Expr.nesting_binary_le isOp first.shaped.2 rightTight (by omega) (by omega)

/-! ## Sources -/

/-- Bounds on what is open are bounds on the weight. -/
theorem Load.weight_le {load : Load} {bound : Nat} (parens : load.parens ≤ bound)
    (operators : load.operators ≤ bound) (cost : Nat) :
    load.weight cost ≤ cost * bound + bound :=
  Nat.add_le_add (Nat.mul_le_mul_left cost parens) operators

/-- The load at the start of a source. -/
theorem Load.weight_start (cost : Nat) : (Load.expecting 0 []).weight cost = 0 := rfl

/-- A source that parsing gives up on has a load of more than the allowance. -/
theorem peak_of_tooDeep {source : String} {found : Token}
    (deep : parse source = .error (.rejected ⟨.nestedTooDeeply, found⟩)) :
    nestingAllowance < (Load.expecting 0 []).peak groupCost (tokenize source) := by
  obtain ⟨outcome, rest, read⟩ := reads_source source
  have parsed := parse_of_reads read
  rw [deep] at parsed
  match outcome, rest with
  | .error error, rest =>
    cases parsed
    exact read.exceeds_of_tooDeep rfl 0 []
  | .ok expr, [] => cases parsed
  | .ok expr, token :: rest => cases parsed

/-- A tree that parses is nested within the load of its tokens. -/
theorem nesting_le_of_parse {source : String} {expr : Expr} (h : parse source = .ok expr) :
    expr.nesting ≤ (Load.expecting 0 []).peak groupCalls (tokenize source) + groupCalls := by
  have nested := (derives_of_parse h).nesting_le 0 []
  have levels : expr.levels ≤ 4 := Nat.sub_le _ _
  rw [Phrase.expression, Phrase.load_level, Load.weight_start] at nested
  unfold groupCalls at *
  omega

/-- Long chains do not exhaust the nesting limits. Let there be at most 45 parentheses open, and at
most 45 operators in front of an operand waiting, at any point of a source. Then parsing does not
give up on it for its depth, however many operators and operands it has. If it derives a tree and
its integer literals fit, that is the tree it is parsed to, and evaluating the tree does not go too
deep. -/
theorem parse_of_loads {source : String}
    (loads : ∀ front, front <+: tokenize source →
      ((Load.expecting 0 []).run front).parens ≤ 45 ∧
        ((Load.expecting 0 []).run front).operators ≤ 45) :
    (∀ found, parse source ≠ .error (.rejected ⟨.nestedTooDeeply, found⟩)) ∧
    ∀ expr, Derives .expression (tokenize source) expr →
      (∀ token ∈ tokenize source, token.Fits) →
      parse source = .ok expr ∧ ∀ writer root, (evaluate expr writer).1 ≠ tooDeep root := by
  have peaks : ∀ cost, (Load.expecting 0 []).peak cost (tokenize source) ≤
      cost * 45 + 45 := fun cost =>
    Load.peak_le fun front leads => Load.weight_le (loads front leads).1 (loads front leads).2 cost
  have shallow : ∀ found, parse source ≠ .error (.rejected ⟨.nestedTooDeeply, found⟩) :=
    fun found deep => by
      have exceeds := Nat.lt_of_lt_of_le (peak_of_tooDeep deep) (peaks groupCost)
      exact absurd exceeds (by decide)
  refine ⟨shallow, fun expr derives fits => ?_⟩
  have parsed := parse_eq_ok_of_derives derives shallow fits
  have nested : expr.nesting ≤ evaluationDepth := by
    have bound := Nat.le_trans (nesting_le_of_parse parsed)
      (Nat.add_le_add_right (peaks groupCalls) groupCalls)
    exact Nat.le_trans bound (by decide)
  exact ⟨parsed, fun writer root =>
    shallow_of_within (Expr.not_exceeds_of_nesting_le nested) writer root⟩

/-- A chain of operators of all four levels with a parenthesis in it. -/
theorem parse_of_loads_four_levels :
    ∃ expr, parse "1 - -(2 * -3) < 8 / 4 == true" = .ok expr ∧
      ∀ writer root, (evaluate expr writer).1 ≠ tooDeep root := by
  have parsed : ∃ expr, parse "1 - -(2 * -3) < 8 / 4 == true" = .ok expr := by
    have ok : (parse "1 - -(2 * -3) < 8 / 4 == true").isOk = true := by decide +kernel
    cases outcome : parse "1 - -(2 * -3) < 8 / 4 == true" with
    | ok expr => exact ⟨expr, rfl⟩
    | error error =>
      rw [outcome] at ok
      cases ok
  obtain ⟨expr, parsed⟩ := parsed
  have loads : ∀ front ∈ (tokenize "1 - -(2 * -3) < 8 / 4 == true").inits,
      ((Load.expecting 0 []).run front).parens ≤ 45 ∧
        ((Load.expecting 0 []).run front).operators ≤ 45 := by decide +kernel
  have chains := parse_of_loads fun front leads => loads front ((List.mem_inits _ _).mpr leads)
  exact ⟨expr, chains.2 expr (derives_of_parse parsed) (fits_of_parse parsed)⟩

end Abacus
