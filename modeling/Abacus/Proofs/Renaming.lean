import Abacus.Proofs.Layout
import Abacus.Proofs.Recognition

/-!
# Reading and writing renamed tokens

A reader looks at the kind of a token and, if it is a literal, at what the token spells. So a change
of tokens that leaves those alone changes nothing about reading but the tokens within the tree or
the error that comes of it. Lines are the foremost thing that can be changed in this way. Of the
tokens of a tree, its written forms show how operators are spelled and nothing else.

Results:
1. `Token.keptBy_of_lineless`: no reader notices the line of a token.
2. `Reads.renamed`: what is read of changed tokens is what was read, with its tokens changed.
3. `Expr.layout_mapTokens`: a tree is written alike if its operators are kept.
-/

namespace Abacus

/-! ## Changing the tokens of trees and errors -/

/-- A tree with each of its tokens changed. -/
def Expr.mapTokens (f : Token → Token) : Expr → Expr
  | .integer token value => .integer (f token) value
  | .boolean token value => .boolean (f token) value
  | .string token value => .string (f token) value
  | .grouping token inner => .grouping (f token) (inner.mapTokens f)
  | .unary token operand => .unary (f token) (operand.mapTokens f)
  | .binary token left right => .binary (f token) (left.mapTokens f) (right.mapTokens f)
  | .foreign typeName => .foreign typeName

/-- An error with the token it points at changed. -/
def ParseError.mapToken (f : Token → Token) : ParseError → ParseError
  | .rejected error => .rejected ⟨error.cause, f error.found⟩
  | .numeralTooLong failure => .numeralTooLong failure

/-- What came of reading, with all tokens changed. -/
def renameOutcome (f : Token → Token) : Except ParseError Expr → Except ParseError Expr
  | .ok expr => .ok (expr.mapTokens f)
  | .error error => .error (error.mapToken f)

/-- A task with the tokens of what it starts from changed. -/
def Task.mapTokens (f : Token → Token) : Task → Task
  | .phrase own => .phrase own
  | .chain level left => .chain level (left.mapTokens f)

/-- A change of a token that no reader would notice. -/
structure Token.KeptBy (f : Token → Token) (token : Token) : Prop where
  kind : (f token).kind = token.kind
  literal : (f token).literal? = token.literal?.map (Expr.mapTokens f)
  unfit : (f token).unfit? = token.unfit?.map (ParseError.mapToken f)

/-- A token without its line. -/
def Token.lineless (token : Token) : Token :=
  { token with line := 0 }

/-- Tokens that differ by their lines only are of one kind and spelled alike. -/
theorem Token.alike_of_lineless {token other : Token} (same : other.lineless = token.lineless) :
    other.kind = token.kind ∧ other.lexeme = token.lexeme := by
  obtain ⟨kind, lexeme, line⟩ := other
  obtain ⟨kind', lexeme', line'⟩ := token
  cases same
  exact ⟨rfl, rfl⟩

/-- No reader would notice that a token is on another line. -/
theorem Token.keptBy_of_lineless {f : Token → Token} {token : Token}
    (same : (f token).lineless = token.lineless) : token.KeptBy f := by
  obtain ⟨kind, lexeme⟩ := Token.alike_of_lineless same
  refine ⟨kind, ?_, ?_⟩
  · unfold literal? number
    rw [kind, lexeme]
    cases token.kind <;> rfl
  · unfold unfit? number
    rw [kind, lexeme]
    by_cases integer : token.kind = .integerLiteral
    · rw [if_pos integer, if_pos integer]
      split
      · rfl
      · split <;> rfl
    · rw [if_neg integer, if_neg integer]
      rfl

/-! ## Reading -/

section
variable {f : Token → Token} {pending : List Token}

theorem head_renamed (kept : ∀ token ∈ pending, token.KeptBy f) (shows : Token.Kind → Prop)
    (h : ∀ token ∈ pending.head?, shows token.kind) :
    ∀ token ∈ (pending.map f).head?, shows token.kind := by
  cases pending with
  | nil => simp
  | cons token rest =>
    intro found mem
    cases mem
    rw [(kept token List.mem_cons_self).kind]
    exact h token rfl

theorem headD_renamed (f : Token → Token) (pending : List Token) (last : Token) :
    (pending.map f).headD (f last) = f (pending.headD last) := by
  cases pending <;> rfl

theorem renameOutcome_unary (f : Token → Token) (op : Token) (outcome : Except ParseError Expr) :
    renameOutcome f (outcome.map (.unary op)) =
      (renameOutcome f outcome).map (.unary (f op)) := by
  cases outcome <;> rfl

/-- What is read of changed tokens is what was read, with its tokens changed. -/
theorem Reads.renamed {last : Token} {allowance : Nat} {task : Task} {rest : List Token}
    {outcome : Except ParseError Expr} (h : Reads last allowance task pending outcome rest)
    (kept : ∀ token ∈ pending, token.KeptBy f) :
    Reads (f last) allowance (task.mapTokens f) (pending.map f) (renameOutcome f outcome)
      (rest.map f) := by
  induction h with
  | @literal allowance token rest expr literal fits =>
    have keeps := kept token List.mem_cons_self
    refine .literal ?_ ?_
    · rw [keeps.literal, literal]
      rfl
    · rw [keeps.unfit, fits]
      rfl
  | @unfit allowance token rest error unfit =>
    refine .unfit ?_
    rw [(kept token List.mem_cons_self).unfit, unfit]
    rfl
  | @missing allowance pending other =>
    have read : Reads (f last) allowance (.phrase .primary) (pending.map f) _ (pending.map f) :=
      .missing (head_renamed kept (fun kind => kind.startsPrimary = false) other)
    rw [headD_renamed] at read
    exact read
  | groupTooDeep opens little =>
    refine .groupTooDeep ?_ little
    rw [(kept _ List.mem_cons_self).kind, opens]
  | groupFails opens enough _ ih =>
    have inside := ih fun token mem => kept token (List.mem_cons_of_mem _ mem)
    refine .groupFails ?_ enough inside
    rw [(kept _ List.mem_cons_self).kind, opens]
  | @groupOpen allowance opening pending rest inner opens enough derivation other ih =>
    have keptInside : ∀ token ∈ pending, token.KeptBy f :=
      fun token mem => kept token (List.mem_cons_of_mem _ mem)
    have keptRest : ∀ token ∈ rest, token.KeptBy f :=
      fun token mem => keptInside token (derivation.rest_suffix.subset mem)
    have read : Reads (f last) allowance (.phrase .primary) (f opening :: pending.map f)
        (.error (.rejected ⟨.missingParen, (rest.map f).headD (f last)⟩)) (rest.map f) := by
      refine .groupOpen ?_ enough (ih keptInside)
        (head_renamed keptRest (fun kind => kind ≠ .rightParen) other)
      rw [(kept _ List.mem_cons_self).kind, opens]
    rw [headD_renamed] at read
    exact read
  | @group allowance opening closing pending rest inner opens enough derivation closes ih =>
    have keptInside : ∀ token ∈ pending, token.KeptBy f :=
      fun token mem => kept token (List.mem_cons_of_mem _ mem)
    have keptClosing : closing.KeptBy f :=
      keptInside closing (derivation.rest_suffix.subset List.mem_cons_self)
    refine .group ?_ enough (ih keptInside) ?_
    · rw [(kept _ List.mem_cons_self).kind, opens]
    · rw [keptClosing.kind, closes]
  | primary other _ ih =>
    exact .primary (head_renamed kept (fun kind => kind.unaryOp? = none) other) (ih kept)
  | unaryTooDeep isOp =>
    refine .unaryTooDeep ?_
    rw [(kept _ List.mem_cons_self).kind, isOp]
  | unary isOp _ ih =>
    rw [renameOutcome_unary]
    refine .unary ?_ (ih fun token mem => kept token (List.mem_cons_of_mem _ mem))
    rw [(kept _ List.mem_cons_self).kind, isOp]
  | operandFails _ ih => exact .operandFails (ih kept)
  | operand first _ left right =>
    -- The chain goes on with what the operand left, which is a part of what was pending.
    exact .operand (left kept) (right fun token mem => kept token (first.rest_suffix.subset mem))
  | @stop allowance level left pending other =>
    exact .stop (head_renamed kept (fun kind => kind.level? ≠ some level) other)
  | rightFails isOp _ ih =>
    refine .rightFails ?_ (ih fun token mem => kept token (List.mem_cons_of_mem _ mem))
    rw [(kept _ List.mem_cons_self).kind, isOp]
  | @binary allowance level left right op pending between rest outcome isOp operand _ first ih =>
    have keptRight : ∀ token ∈ pending, token.KeptBy f :=
      fun token mem => kept token (List.mem_cons_of_mem _ mem)
    refine .binary ?_ (first keptRight)
      (ih fun token mem => keptRight token (operand.rest_suffix.subset mem))
    rw [(kept _ List.mem_cons_self).kind, isOp]

end

/-! ## Writing -/

namespace Expr

/-- The tokens of the operators of a tree, from left to right. -/
def operators : Expr → List Token
  | .grouping _ inner => inner.operators
  | .unary token operand => token :: operand.operators
  | .binary token left right => left.operators ++ token :: right.operators
  | _ => []

/-- A change of tokens leaves the operators of a tree as they are, but for their lines. -/
def KeepsOperators (f : Token → Token) (expr : Expr) : Prop :=
  ∀ op ∈ expr.operators, (f op).lineless = op.lineless

namespace KeepsOperators

variable {f : Token → Token} {token : Token} {expr operand left right : Expr}

theorem unary (kept : (Expr.unary token operand).KeepsOperators f) :
    (f token).lineless = token.lineless ∧ operand.KeepsOperators f :=
  List.forall_mem_cons.mp kept

theorem binary (kept : (Expr.binary token left right).KeepsOperators f) :
    left.KeepsOperators f ∧ (f token).lineless = token.lineless ∧ right.KeepsOperators f := by
  obtain ⟨before, behind⟩ := List.forall_mem_append.mp kept
  exact ⟨before, List.forall_mem_cons.mp behind⟩

end KeepsOperators

/-- A tree is written alike if its operators are kept. -/
theorem layout_mapTokens (style : Style) {f : Token → Token} {expr : Expr}
    (kept : expr.KeepsOperators f) : style.layout (expr.mapTokens f) = style.layout expr := by
  induction expr with
  | integer | boolean | string | «foreign» => rfl
  | grouping token inner ih => rw [mapTokens, Style.layout, ih kept, Style.layout]
  | unary token operand ih =>
    obtain ⟨own, below⟩ := kept.unary
    rw [mapTokens, Style.layout, (Token.alike_of_lineless own).2, ih below, Style.layout]
  | binary token left right first second =>
    obtain ⟨before, own, behind⟩ := kept.binary
    rw [mapTokens, Style.layout, (Token.alike_of_lineless own).2, first before, second behind,
      Style.layout]

end Expr

end Abacus
