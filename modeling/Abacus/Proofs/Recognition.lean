import Abacus.Proofs.Descent
import Abacus.Proofs.Spelling
import Mathlib.Control.Monad.Basic

/-!
# Parsing recognises the grammar

The parser accepts exactly the token lists of the grammar, and each with its one tree. That what is
read derives is an induction over the rules of reading. That what derives is read is one over the
derivation, with any tokens behind it that do not go on with the phrase; it ends in the tree unless
the allowance for nesting runs out or an integer literal does not fit, and then the first unfit
literal decides.

Results:
1. `Reads.derived`: what a reader takes off the front derives the tree it answers with.
2. `Derives.reads`: what derives is read, as far as allowance and literals permit.
3. `parse_of_derives`: the same for a whole source.
4. `parse_eq_ok_iff_derives`: parsing gives a tree exactly if the tokens derive it.
-/

namespace Abacus

/-! ## What is read derives -/

/-- What the tokens that a task took say about the tree it ended with. A chain goes on with any
tokens that derive its first operand. -/
def Task.Derived : Task → List Token → Expr → Prop
  | .phrase own, tokens, expr => Derives own tokens expr
  | .chain level left, tokens, expr =>
    ∀ before, Derives (.level level) before left → Derives (.level level) (before ++ tokens) expr

/-- What a reader takes off the front derives the tree it answers with. -/
theorem Reads.derived {last : Token} {allowance : Nat} {task : Task} {pending rest : List Token}
    {outcome : Except ParseError Expr} (h : Reads last allowance task pending outcome rest)
    {expr : Expr} (ok : outcome = .ok expr) :
    ∃ tokens, pending = tokens ++ rest ∧ task.Derived tokens expr := by
  induction h generalizing expr with
  | @literal _ token rest _ literal _ =>
    cases ok
    exact ⟨[token], rfl, .literal literal⟩
  | unfit => cases ok
  | missing => cases ok
  | groupTooDeep => cases ok
  | groupFails => cases ok
  | groupOpen => cases ok
  | @group _ opening closing pending rest inner opens _ _ closes ih =>
    cases ok
    obtain ⟨tokens, rfl, derived⟩ := ih rfl
    exact ⟨opening :: (tokens ++ [closing]), by simp, .grouping opens derived closes⟩
  | primary _ _ ih =>
    obtain ⟨tokens, split, derived⟩ := ih ok
    exact ⟨tokens, split, .primary derived⟩
  | unaryTooDeep => cases ok
  | @unary _ op pending rest outcome isOp _ ih =>
    cases outcome with
    | error error => cases ok
    | ok operand =>
      cases ok
      obtain ⟨tokens, rfl, derived⟩ := ih rfl
      exact ⟨op :: tokens, rfl, .unary (mem_unaryOperators_iff.mpr isOp) derived⟩
  | operandFails => cases ok
  | operand _ _ first chain =>
    obtain ⟨before, rfl, left⟩ := first rfl
    obtain ⟨after, rfl, derived⟩ := chain ok
    exact ⟨before ++ after, by simp, derived before (.operand left)⟩
  | stop =>
    cases ok
    exact ⟨[], rfl, fun before left => by simpa using left⟩
  | rightFails => cases ok
  | @binary _ level left right op _ _ _ _ isOp _ _ operand chain =>
    obtain ⟨middle, rfl, right⟩ := operand rfl
    obtain ⟨after, rfl, derived⟩ := chain ok
    -- The node just built is the first operand of the chain that goes on.
    refine ⟨op :: (middle ++ after), by simp, fun before left => ?_⟩
    have step := derived (before ++ op :: middle)
      (.binary left (Level.mem_operators_iff.mpr isOp) right)
    simpa using step

/-! ## What derives is read -/

/-- The errors that reading some tokens may end with although they derive a tree: the allowance
runs out, or it is that of their first unfit literal. -/
def Stumbles (tokens : List Token) (error : ParseError) : Prop :=
  (∃ found, error = .rejected ⟨.nestedTooDeeply, found⟩) ∨
    tokens.findSome? Token.unfit? = some error

namespace Stumbles

variable {tokens : List Token} {error : ParseError}

theorem append (h : Stumbles tokens error) (more : List Token) :
    Stumbles (tokens ++ more) error := by
  rcases h with deep | unfit
  · exact .inl deep
  · exact .inr (by rw [List.findSome?_append, unfit]; rfl)

theorem prepend {before : List Token} (fits : before.findSome? Token.unfit? = none)
    (h : Stumbles tokens error) : Stumbles (before ++ tokens) error := by
  rcases h with deep | unfit
  · exact .inl deep
  · exact .inr (by rw [List.findSome?_append, fits, unfit]; rfl)

theorem cons {token : Token} (fits : token.unfit? = none) (h : Stumbles tokens error) :
    Stumbles (token :: tokens) error := by
  have single : [token].findSome? Token.unfit? = none := by simp [fits]
  exact h.prepend single

end Stumbles

/-- Reading a phrase off the front of some tokens ends as wanted, unless it stumbles over them. -/
def Delivers (last : Token) (allowance : Nat) (phrase : Phrase) (tokens rest : List Token)
    (outcome : Except ParseError Expr) (after : List Token) : Prop :=
  (∃ error left, Stumbles tokens error ∧
    Reads last allowance (.phrase phrase) (tokens ++ rest) (.error error) left) ∨
  (tokens.findSome? Token.unfit? = none ∧
    Reads last allowance (.phrase phrase) (tokens ++ rest) outcome after)

/-- No operator that would go on with a phrase stands at the front of the rest. -/
def Phrase.EndsBefore (phrase : Phrase) (rest : List Token) : Prop :=
  ∀ token ∈ rest.head?, ∀ level, token.kind.level? = some level → level.rank < phrase.tightness

/-- How reading goes on after a phrase: a level may go on with operators of its own, all other
phrases are at their end. -/
def Continues (last : Token) (allowance : Nat) (phrase : Phrase) (expr : Expr)
    (rest : List Token) (outcome : Except ParseError Expr) (after : List Token) : Prop :=
  match phrase with
  | .level own =>
    own.operand.EndsBefore rest ∧ Reads last allowance (.chain own expr) rest outcome after
  | _ => outcome = .ok expr ∧ after = rest

/-- Where a phrase ends, it is read as it is. -/
theorem continues_of_endsBefore {phrase : Phrase} {rest : List Token}
    (ends : phrase.EndsBefore rest) (last : Token) (allowance : Nat) (expr : Expr) :
    Continues last allowance phrase expr rest (.ok expr) rest := by
  cases phrase with
  | level own =>
    refine ⟨?_, .stop ?_⟩
    · intro token mem level isOp
      rw [Phrase.tightness_operand]
      exact Nat.lt_succ_of_lt (ends token mem level isOp)
    · intro token mem isOp
      exact absurd (ends token mem own isOp) (Nat.lt_irrefl _)
  | unary => exact ⟨rfl, rfl⟩
  | primary => exact ⟨rfl, rfl⟩

theorem endsBefore_of_rightParen {closing : Token} (closes : closing.kind = .rightParen)
    (phrase : Phrase) (rest : List Token) : phrase.EndsBefore (closing :: rest) := by
  intro token mem level isOp
  cases mem
  exact absurd closes (Token.Kind.ne_of_level? isOp rfl)

theorem unfit?_of_unaryOp? {op : Token} (isOp : op.kind.unaryOp?.isSome = true) :
    op.unfit? = none :=
  Token.unfit?_of_kind (Token.Kind.ne_of_unaryOp? isOp rfl)

theorem unfit?_of_level? {op : Token} {level : Level} (isOp : op.kind.level? = some level) :
    op.unfit? = none :=
  Token.unfit?_of_kind (Token.Kind.ne_of_level? isOp rfl)

/-- What derives is read, as far as the allowance and the literals permit, and reading goes on
behind it as it would there. -/
theorem Derives.reads {phrase : Phrase} {tokens : List Token} {expr : Expr}
    (h : Derives phrase tokens expr) {last : Token} {allowance : Nat} {rest after : List Token}
    {outcome : Except ParseError Expr}
    (continues : Continues last allowance phrase expr rest outcome after) :
    Delivers last allowance phrase tokens rest outcome after := by
  induction h generalizing allowance rest outcome after with
  | @literal token expr literal =>
    obtain ⟨rfl, rfl⟩ := continues
    cases fits : token.unfit? with
    | some error => exact .inl ⟨error, after, .inr (by simp [fits]), .unfit fits⟩
    | none => exact .inr ⟨by simp [fits], .literal literal fits⟩
  | @grouping opening closing tokens inner opens _ closes ih =>
    obtain ⟨rfl, rfl⟩ := continues
    have openingFits : opening.unfit? = none := Token.unfit?_of_kind (by rw [opens]; decide)
    have closingFits : closing.unfit? = none := Token.unfit?_of_kind (by rw [closes]; decide)
    by_cases enough : groupCost ≤ allowance
    · have ends := endsBefore_of_rightParen closes .expression after
      have pending : opening :: (tokens ++ [closing]) ++ after =
          opening :: (tokens ++ closing :: after) := by simp
      rcases ih (continues_of_endsBefore ends last (allowance - groupCost) inner) with
        ⟨error, left, stumbles, read⟩ | ⟨fits, read⟩
      · refine .inl ⟨error, left, (stumbles.append [closing]).cons openingFits, ?_⟩
        rw [pending]
        exact .groupFails opens enough read
      · refine .inr ⟨by simp [fits, openingFits, closingFits], ?_⟩
        rw [pending]
        exact .group opens enough read closes
    · exact .inl ⟨_, _, .inl ⟨opening, rfl⟩, .groupTooDeep opens (Nat.lt_of_not_le enough)⟩
  | @primary tokens expr derives ih =>
    -- There is no operator in front, so the reader goes down to the tighter layer.
    obtain ⟨token, others, rfl, noOp⟩ := derives.primary_head
    have head : ∀ found ∈ (token :: others ++ rest).head?, found.kind.unaryOp? = none := by
      simpa using noOp
    have ended : Continues last allowance .primary expr rest outcome after := continues
    rcases ih ended with
      ⟨error, left, stumbles, read⟩ | ⟨fits, read⟩
    · exact .inl ⟨error, left, stumbles, .primary head read⟩
    · exact .inr ⟨fits, .primary head read⟩
  | @unary op tokens operand listed _ ih =>
    have isOp := mem_unaryOperators_iff.mp listed
    obtain ⟨rfl, rfl⟩ := continues
    have opFits := unfit?_of_unaryOp? isOp
    cases allowance with
    | zero => exact .inl ⟨_, _, .inl ⟨op, rfl⟩, .unaryTooDeep isOp⟩
    | succ allowance =>
      have ended : Continues last allowance .unary operand after (.ok operand) after := ⟨rfl, rfl⟩
      rcases ih ended with
        ⟨error, left, stumbles, read⟩ | ⟨fits, read⟩
      · exact .inl ⟨error, left, stumbles.cons opFits, .unary isOp read⟩
      · exact .inr ⟨by simp [opFits, fits], .unary isOp read⟩
  | @operand level tokens expr _ ih =>
    obtain ⟨ends, chain⟩ := continues
    rcases ih (continues_of_endsBefore ends last allowance expr) with
      ⟨error, left, stumbles, read⟩ | ⟨fits, read⟩
    · exact .inl ⟨error, left, stumbles, .operandFails read⟩
    · exact .inr ⟨fits, .operand read chain⟩
  | @binary level op before after' left right _ listed _ first second =>
    have isOp := Level.mem_operators_iff.mp listed
    obtain ⟨ends, chain⟩ := continues
    have opFits := unfit?_of_level? isOp
    have opEnds : level.operand.EndsBefore (op :: (after' ++ rest)) := by
      intro token mem other otherOp
      cases mem
      cases isOp.symm.trans otherOp
      rw [Phrase.tightness_operand]
      exact Nat.lt_succ_self _
    have pending : before ++ op :: after' ++ rest = before ++ op :: (after' ++ rest) := by simp
    -- The right operand comes first: whether it stumbles settles how the left one is gone on with.
    rcases second (continues_of_endsBefore ends last allowance right) with
      ⟨error, stuck, stumbles, read⟩ | ⟨rightFits, read⟩
    · rcases first ⟨opEnds, .rightFails isOp read⟩ with
        ⟨error', stuck', stumbles', read'⟩ | ⟨leftFits, read'⟩
      · exact .inl ⟨error', stuck', stumbles'.append _, pending ▸ read'⟩
      · exact .inl ⟨error, stuck, (stumbles.cons opFits).prepend leftFits, pending ▸ read'⟩
    · rcases first ⟨opEnds, .binary isOp read chain⟩ with
        ⟨error', stuck', stumbles', read'⟩ | ⟨leftFits, read'⟩
      · exact .inl ⟨error', stuck', stumbles'.append _, pending ▸ read'⟩
      · exact .inr ⟨by simp [List.findSome?_append, leftFits, opFits, rightFits], pending ▸ read'⟩

/-! ## Whole sources -/

/-- What is left after reading is the end of what was there. -/
theorem Reads.rest_suffix {last : Token} {allowance : Nat} {phrase : Phrase}
    {pending rest : List Token} {outcome : Except ParseError Expr}
    (h : Reads last allowance (.phrase phrase) pending outcome rest) : rest <:+ pending := by
  obtain ⟨suffix, -⟩ := Step.eq_of_result h.reader_eq
  exact suffix

/-- The token that ends a source. -/
def sourceEnd (source : String) : Token :=
  (TokenStream.ofSource source).last

theorem Reads.read_eq {stream : TokenStream} {phrase : Phrase} {rest : List Token}
    {outcome : Except ParseError Expr}
    (h : Reads stream.last nestingAllowance (.phrase phrase) stream.pending outcome rest) :
    phrase.read stream = (outcome, ⟨rest, stream.last⟩) := by
  obtain ⟨suffix, step⟩ := Step.eq_of_result h.reader_eq
  unfold Phrase.read
  rw [Phrase.reader_eq, step]

theorem kind_ne_endOfFile {source : String} {token : Token} (mem : token ∈ tokenize source) :
    token.kind ≠ .endOfFile :=
  (tokenize_spelled source token mem).kind_ne_endOfFile

/-- A source is read as an expression, and nothing may follow it. -/
theorem parse_of_reads {source : String} {outcome : Except ParseError Expr} {rest : List Token}
    (h : Reads (sourceEnd source) nestingAllowance (.phrase .expression) (tokenize source) outcome
      rest) :
    parse source =
      match outcome, rest with
      | .error error, _ => .error error
      | .ok expr, [] => .ok expr
      | .ok _, token :: _ => .error (.rejected ⟨.trailingToken, token⟩) := by
  have read : Phrase.expression.read (TokenStream.ofSource source) = (outcome, ⟨rest, _⟩) :=
    Reads.read_eq h
  rw [parse, TokenStream.parse, read]
  match outcome, rest with
  | .error error, rest => rfl
  | .ok expr, [] => rfl
  | .ok expr, token :: rest =>
    have other : token.kind ≠ .endOfFile :=
      kind_ne_endOfFile (h.rest_suffix.subset List.mem_cons_self)
    simp [TokenStream.current, other]

theorem reads_source (source : String) :
    ∃ outcome rest, Reads (sourceEnd source) nestingAllowance (.phrase .expression)
      (tokenize source) outcome rest :=
  ⟨_, _, reads_reader _ _ _ _⟩

/-- A source that is accepted is read to its end. -/
theorem reads_of_parse {source : String} {expr : Expr} (h : parse source = .ok expr) :
    Reads (sourceEnd source) nestingAllowance (.phrase .expression) (tokenize source) (.ok expr)
      [] := by
  obtain ⟨outcome, rest, read⟩ := reads_source source
  have parsed := parse_of_reads read
  rw [h] at parsed
  match outcome, rest with
  | .error error, rest => cases parsed
  | .ok found, [] =>
    cases parsed
    exact read
  | .ok found, token :: rest => cases parsed

/-- A source that is accepted derives its tree. -/
theorem derives_of_parse {source : String} {expr : Expr} (h : parse source = .ok expr) :
    Derives .expression (tokenize source) expr := by
  obtain ⟨tokens, split, derived⟩ := (reads_of_parse h).derived rfl
  rw [List.append_nil] at split
  rw [split]
  exact derived

/-- A source that derives a tree is accepted with it, unless parsing stumbles over its tokens. -/
theorem parse_of_derives {source : String} {expr : Expr}
    (h : Derives .expression (tokenize source) expr) :
    (∃ error, Stumbles (tokenize source) error ∧ parse source = .error error) ∨
      ((tokenize source).findSome? Token.unfit? = none ∧ parse source = .ok expr) := by
  have ends : Phrase.expression.EndsBefore [] := by
    intro token mem
    cases mem
  rcases h.reads (continues_of_endsBefore ends (sourceEnd source) nestingAllowance expr) with
    ⟨error, left, stumbles, read⟩ | ⟨fits, read⟩
  · rw [List.append_nil] at read
    exact .inl ⟨error, stumbles, parse_of_reads read⟩
  · rw [List.append_nil] at read
    exact .inr ⟨fits, parse_of_reads read⟩

/-- All integer literals of a source that is accepted fit. -/
theorem fits_of_parse {source : String} {expr : Expr} (h : parse source = .ok expr) :
    ∀ token ∈ tokenize source, token.Fits := by
  intro token mem
  rcases parse_of_derives (derives_of_parse h) with ⟨error, _, failed⟩ | ⟨fits, _⟩
  · rw [h] at failed
    cases failed
  · exact Token.unfit?_eq_none_iff.mp (List.findSome?_eq_none_iff.mp fits token mem)

/-- Where nothing is stumbled over, a source that derives a tree is accepted with it. -/
theorem parse_eq_ok_of_derives {source : String} {expr : Expr}
    (h : Derives .expression (tokenize source) expr)
    (shallow : ∀ found, parse source ≠ .error (.rejected ⟨.nestedTooDeeply, found⟩))
    (fits : ∀ token ∈ tokenize source, token.Fits) : parse source = .ok expr := by
  rcases parse_of_derives h with ⟨error, ⟨found, rfl⟩ | unfit, failed⟩ | ⟨-, parsed⟩
  · exact absurd failed (shallow found)
  · rw [List.findSome?_eq_none_iff.mpr fun token mem =>
      Token.unfit?_eq_none_iff.mpr (fits token mem)] at unfit
    cases unfit
  · exact parsed

/-- Where parsing is not stopped by the nesting limit and all integer literals fit, a source has a
tree exactly if its tokens derive that tree by the layered grammar. So the tokens derive at most one
tree, which holds each of them in order, and a source outside the grammar is not accepted. -/
theorem parse_eq_ok_iff_derives (source : String)
    (shallow : ∀ found, parse source ≠ .error (.rejected ⟨.nestedTooDeeply, found⟩))
    (fits : ∀ token ∈ tokenize source, token.Fits) :
    (∀ expr, parse source = .ok expr ↔ Derives .expression (tokenize source) expr) ∧
    (∀ first second, Derives .expression (tokenize source) first →
      Derives .expression (tokenize source) second → first = second) ∧
    (∀ expr, parse source = .ok expr →
      expr.inOrder = (tokenize source).map Token.kept?) ∧
    ((¬ ∃ expr, Derives .expression (tokenize source) expr) →
      ∃ error, parse source = .error error) := by
  have noUnfit : (tokenize source).findSome? Token.unfit? = none :=
    List.findSome?_eq_none_iff.mpr fun token mem => Token.unfit?_eq_none_iff.mpr (fits token mem)
  have complete : ∀ expr, Derives .expression (tokenize source) expr →
      parse source = .ok expr := by
    intro expr derives
    rcases parse_of_derives derives with ⟨error, deep | unfit, failed⟩ | ⟨_, parsed⟩
    · obtain ⟨found, rfl⟩ := deep
      exact absurd failed (shallow found)
    · rw [noUnfit] at unfit
      cases unfit
    · exact parsed
  refine ⟨fun expr => ⟨derives_of_parse, complete expr⟩, ?_, ?_, ?_⟩
  · intro first second derivesFirst derivesSecond
    have same := (complete first derivesFirst).symm.trans (complete second derivesSecond)
    exact Except.ok.inj same
  · intro expr parsed
    exact (derives_of_parse parsed).inOrder_eq
  · intro outside
    cases parsed : parse source with
    | error error => exact ⟨error, rfl⟩
    | ok expr => exact absurd ⟨expr, derives_of_parse parsed⟩ outside

/-- Differences are grouped from the left, and from the left only. -/
theorem derives_differences :
    Derives .expression (tokenize "8-4-2")
      (.binary ⟨.minus, "-", 1⟩
        (.binary ⟨.minus, "-", 1⟩ (.integer ⟨.integerLiteral, "8", 1⟩ 8)
          (.integer ⟨.integerLiteral, "4", 1⟩ 4))
        (.integer ⟨.integerLiteral, "2", 1⟩ 2)) ∧
    ¬ Derives .expression (tokenize "8-4-2")
      (.binary ⟨.minus, "-", 1⟩ (.integer ⟨.integerLiteral, "8", 1⟩ 8)
        (.binary ⟨.minus, "-", 1⟩ (.integer ⟨.integerLiteral, "4", 1⟩ 4)
          (.integer ⟨.integerLiteral, "2", 1⟩ 2))) := by
  have parsed : parse "8-4-2" = .ok
      (.binary ⟨.minus, "-", 1⟩
        (.binary ⟨.minus, "-", 1⟩ (.integer ⟨.integerLiteral, "8", 1⟩ 8)
          (.integer ⟨.integerLiteral, "4", 1⟩ 4))
        (.integer ⟨.integerLiteral, "2", 1⟩ 2)) := by decide +kernel
  have shallow : ∀ found, parse "8-4-2" ≠ .error (.rejected ⟨.nestedTooDeeply, found⟩) := by
    intro found
    rw [parsed]
    intro deep
    cases deep
  have recognised := parse_eq_ok_iff_derives "8-4-2" shallow (by decide +kernel)
  refine ⟨(recognised.1 _).mp parsed, fun other => ?_⟩
  have clash := parsed.symm.trans ((recognised.1 _).mpr other)
  exact absurd clash (by decide)

end Abacus
