import Abacus.Expr.Phrase

/-!
# The grammar of expressions

The grammar in layers. A level of binary operators takes phrases of the next tighter layer on its
right and of its own on its left, unary operators nest to the right, and below them stand literals
and parentheses. `Derives` says which tokens a tree may be made of; it knows nothing of lookahead,
of nesting limits or of the order in which a source is read.

Results:
1. `mem_unaryOperators_iff` and `Level.mem_operators_iff`: the operators of the grammar are those
   that the parser takes, at the same levels.
2. `Derives.inOrder_eq`: read in order, with a closing parenthesis after each group, a tree is the
   list of tokens it was derived from.
3. `Derives.loosen`: a phrase is also a phrase of every looser layer.
4. `Token.unfit?_eq_none_iff` and `readInteger_eq`: what makes an integer literal unreadable.
-/

namespace Abacus

/-! ## Literals -/

namespace Token

/-- The number that the digits of an integer literal stand for, whether it fits or not. -/
def number (token : Token) : Nat :=
  Nat.ofDigitChars 10 token.lexeme.toList 0

/-- An integer literal is not too long, and its number is in the range of integers. -/
def Fits (token : Token) : Prop :=
  token.kind = .integerLiteral →
    token.lexeme.length ≤ Numeral.maxDigits ∧ (token.number : Int) ≤ Integer.greatest

instance (token : Token) : Decidable token.Fits :=
  inferInstanceAs (Decidable (token.kind = .integerLiteral →
    token.lexeme.length ≤ Numeral.maxDigits ∧ (token.number : Int) ≤ Integer.greatest))

/-- What is wrong with an integer literal that does not fit. -/
def unfit? (token : Token) : Option ParseError :=
  if token.kind = .integerLiteral then
    if Numeral.maxDigits < token.lexeme.length then
      some (.numeralTooLong ⟨token.lexeme.length⟩)
    else if Integer.greatest < token.number then
      some (.rejected ⟨.integerOutOfRange, token⟩)
    else none
  else none

/-- The tree of a token that is a literal. -/
def literal? (token : Token) : Option Expr :=
  match token.kind with
  | .integerLiteral => some (.integer token token.number)
  | .booleanLiteral => some (.boolean token (Truth.read token.lexeme))
  | .stringLiteral => some (.string token token.lexeme)
  | _ => none

/-- A tree made of a token, unless the token is unfit. -/
def outcome (token : Token) (expr : Expr) : Except ParseError Expr :=
  match token.unfit? with
  | some error => .error error
  | none => .ok expr

/-- Nothing is wrong with a token exactly if it fits. -/
theorem unfit?_eq_none_iff {token : Token} : token.unfit? = none ↔ token.Fits := by
  unfold unfit? Fits
  by_cases integer : token.kind = .integerLiteral
  · simp only [integer, if_true, forall_const]
    split
    · simp; omega
    · split
      · simp; omega
      · simp; omega
  · simp [integer]

theorem unfit?_of_kind {token : Token} (other : token.kind ≠ .integerLiteral) :
    token.unfit? = none := by
  rw [unfit?, if_neg other]

theorem kind_of_unfit? {token : Token} {error : ParseError} (unfit : token.unfit? = some error) :
    token.kind = .integerLiteral := by
  by_cases integer : token.kind = .integerLiteral
  · exact integer
  · rw [unfit?_of_kind integer] at unfit
    cases unfit

/-- An unfit token is an integer literal that is too large or too long. -/
theorem unfit?_cases {token : Token} {error : ParseError}
    (h : token.unfit? = some error) :
    token.kind = .integerLiteral ∧
      ((token.lexeme.length ≤ Numeral.maxDigits ∧ Integer.greatest < token.number ∧
          error = .rejected ⟨.integerOutOfRange, token⟩) ∨
        (Numeral.maxDigits < token.lexeme.length ∧
          error = .numeralTooLong ⟨token.lexeme.length⟩)) := by
  refine ⟨kind_of_unfit? h, ?_⟩
  unfold unfit? at h
  rw [if_pos (kind_of_unfit? h)] at h
  split at h
  · rename_i long
    cases h
    exact .inr ⟨long, rfl⟩
  · rename_i short
    split at h
    · rename_i large
      cases h
      exact .inl ⟨Nat.le_of_not_lt short, large, rfl⟩
    · cases h

theorem literal?_of_integer {token : Token} (integer : token.kind = .integerLiteral) :
    token.literal? = some (.integer token token.number) := by
  rw [literal?, integer]

/-- The tree of a literal is a leaf that is made of its token. -/
theorem literal?_cases {token : Token} {expr : Expr} (h : token.literal? = some expr) :
    (token.kind = .integerLiteral ∧ expr = .integer token token.number) ∨
      (token.kind = .booleanLiteral ∧ expr = .boolean token (Truth.read token.lexeme)) ∨
      (token.kind = .stringLiteral ∧ expr = .string token token.lexeme) := by
  unfold literal? at h
  split at h
  · exact .inl ⟨‹_›, (Option.some.inj h).symm⟩
  · exact .inr (.inl ⟨‹_›, (Option.some.inj h).symm⟩)
  · exact .inr (.inr ⟨‹_›, (Option.some.inj h).symm⟩)
  · cases h

end Token

/-- An integer literal is read as its number, unless it is unfit. -/
theorem readInteger_eq {token : Token} (integer : token.kind = .integerLiteral) :
    readInteger token = token.outcome (.integer token token.number) := by
  unfold readInteger Numeral.read Token.outcome Token.unfit? Token.number
  rw [if_pos integer, String.length_toList]
  by_cases short : token.lexeme.length ≤ Numeral.maxDigits
  · rw [if_pos short, if_neg (Nat.not_lt.mpr short)]
    dsimp only
    split <;> rfl
  · rw [if_neg short, if_pos (Nat.lt_of_not_le short)]

/-! ## Operators

The grammar says on its own which operators it has and of which level they are. -/

/-- The operators in front of an operand. -/
def unaryOperators : List Token.Kind :=
  [.bang, .minus]

namespace Level

/-- All levels, from the loosest to the tightest. -/
def all : List Level :=
  [.equality, .comparison, .term, .factor]

/-- The operators of a level. -/
def operators : Level → List Token.Kind
  | .equality => [.equals, .bangEquals]
  | .comparison => [.greater, .greaterEquals, .smaller, .smallerEquals]
  | .term => [.plus, .minus]
  | .factor => [.star, .slash]

end Level

/-- The level that has an operator. -/
def Token.Kind.layer? (kind : Token.Kind) : Option Level :=
  Level.all.find? (kind ∈ ·.operators)

/-- The parser takes the operators of the grammar in front of an operand. -/
theorem mem_unaryOperators_iff {kind : Token.Kind} :
    kind ∈ unaryOperators ↔ kind.unaryOp?.isSome = true := by
  cases kind <;> decide

/-- The parser takes the operators of the grammar between operands, and at their levels. -/
theorem Level.mem_operators_iff {level : Level} {kind : Token.Kind} :
    kind ∈ level.operators ↔ kind.level? = some level := by
  cases level <;> cases kind <;> decide

/-- The level that has an operator is the one at which the parser takes it. -/
theorem Token.Kind.layer?_eq (kind : Token.Kind) : kind.layer? = kind.level? := by
  cases kind <;> rfl

/-! ## Layers -/

/-- The phrases that a level takes as right operands. -/
def Level.operand : Level → Phrase
  | .equality => .level .comparison
  | .comparison => .level .term
  | .term => .level .factor
  | .factor => .unary

namespace Phrase

/-- How tightly a phrase holds together. -/
def tightness : Phrase → Nat
  | .level own => own.rank
  | .unary => 4
  | .primary => 5

/-- The phrases that make up the next tighter layer. -/
def tighter : Phrase → Phrase
  | .level own => own.operand
  | .unary => .primary
  | .primary => .primary

@[simp] theorem tightness_operand (level : Level) : level.operand.tightness = level.rank + 1 := by
  cases level <;> rfl

theorem tightness_le (phrase : Phrase) : phrase.tightness ≤ Phrase.primary.tightness := by
  rcases phrase with own | _ | _
  · cases own <;> decide
  · decide
  · exact Nat.le_refl _

theorem tightness_injective {first second : Phrase}
    (same : first.tightness = second.tightness) : first = second := by
  rcases first with (_ | _ | _ | _) | _ | _ <;> rcases second with (_ | _ | _ | _) | _ | _ <;>
    first | rfl | exact absurd same (by decide)

/-- Nothing lies between a layer and the next tighter one. -/
theorem tightness_tighter_le {first second : Phrase}
    (looser : first.tightness < second.tightness) :
    first.tightness < first.tighter.tightness ∧ first.tighter.tightness ≤ second.tightness := by
  cases first with
  | level own =>
    rw [tighter, tightness_operand]
    exact ⟨Nat.lt_succ_self _, looser⟩
  | unary => exact ⟨Nat.lt_succ_self _, looser⟩
  | primary => exact absurd (tightness_le second) (Nat.not_le.mpr looser)

end Phrase

/-! ## Derivations -/

/-- `Derives phrase tokens expr`: by the grammar, the tokens are a phrase of that layer, and its
tree is `expr`. -/
inductive Derives : Phrase → List Token → Expr → Prop
  /-- A literal. -/
  | literal {token : Token} {expr : Expr} :
      token.literal? = some expr → Derives .primary [token] expr
  /-- An expression in parentheses, which starts at the loosest level again. -/
  | grouping {opening closing : Token} {tokens : List Token} {inner : Expr} :
      opening.kind = .leftParen → Derives .expression tokens inner →
      closing.kind = .rightParen →
      Derives .primary (opening :: (tokens ++ [closing])) (.grouping opening inner)
  /-- A phrase of the tighter layer below unary operators. -/
  | primary {tokens : List Token} {expr : Expr} :
      Derives .primary tokens expr → Derives .unary tokens expr
  /-- An operator in front of an operand, which may have one in front of itself. -/
  | unary {op : Token} {tokens : List Token} {operand : Expr} :
      op.kind ∈ unaryOperators → Derives .unary tokens operand →
      Derives .unary (op :: tokens) (.unary op operand)
  /-- A phrase of the tighter layer below a level. -/
  | operand {level : Level} {tokens : List Token} {expr : Expr} :
      Derives level.operand tokens expr → Derives (.level level) tokens expr
  /-- An operator of a level, with the level itself on its left. -/
  | binary {level : Level} {op : Token} {before after : List Token} {left right : Expr} :
      Derives (.level level) before left → op.kind ∈ level.operators →
      Derives level.operand after right →
      Derives (.level level) (before ++ op :: after) (.binary op left right)

/-! What holds of all tokens of a phrase holds of those of its parts. -/

section
variable {P : Token → Prop}

theorem forall_mem_grouping {opening closing : Token} {tokens : List Token}
    (all : ∀ token ∈ opening :: (tokens ++ [closing]), P token) :
    P opening ∧ (∀ token ∈ tokens, P token) ∧ P closing := by
  obtain ⟨opens, rest⟩ := List.forall_mem_cons.mp all
  obtain ⟨inside, closes⟩ := List.forall_mem_append.mp rest
  exact ⟨opens, inside, closes closing List.mem_cons_self⟩

theorem forall_mem_binary {op : Token} {before after : List Token}
    (all : ∀ token ∈ before ++ op :: after, P token) :
    (∀ token ∈ before, P token) ∧ P op ∧ ∀ token ∈ after, P token := by
  obtain ⟨front, rest⟩ := List.forall_mem_append.mp all
  exact ⟨front, List.forall_mem_cons.mp rest⟩

end

/-! ## Trees in order -/

/-- The tokens of a tree from left to right. The closing parenthesis of a group, which a tree does
not keep, is `none`. -/
def Expr.inOrder : Expr → List (Option Token)
  | .integer token _ | .boolean token _ | .string token _ => [some token]
  | .grouping token inner => some token :: (inner.inOrder ++ [none])
  | .unary token operand => some token :: operand.inOrder
  | .binary token left right => left.inOrder ++ some token :: right.inOrder
  | .foreign _ => []

/-- A token as a tree keeps it: closing parentheses are dropped. -/
def Token.kept? (token : Token) : Option Token :=
  if token.kind = .rightParen then none else some token

namespace Token

theorem kept?_of_kind {token : Token} (other : token.kind ≠ .rightParen) :
    token.kept? = some token := by
  rw [kept?, if_neg other]

/-- The tree of a literal holds its token, and no parenthesis is a literal. -/
theorem inOrder_literal {token : Token} {expr : Expr} (h : token.literal? = some expr) :
    expr.inOrder = [some token] ∧ token.kind ≠ .rightParen := by
  rcases literal?_cases h with ⟨kind, rfl⟩ | ⟨kind, rfl⟩ | ⟨kind, rfl⟩ <;>
  · rw [kind]
    exact ⟨rfl, by decide⟩

namespace Kind

variable {kind other : Kind}

theorem ne_of_unaryOp? (isOp : kind.unaryOp?.isSome = true) (noOp : other.unaryOp? = none) :
    kind ≠ other := by
  rintro rfl
  rw [noOp] at isOp
  cases isOp

theorem ne_of_level? {level : Level} (isOp : kind.level? = some level)
    (noOp : other.level? = none) : kind ≠ other := by
  rintro rfl
  cases noOp.symm.trans isOp

end Kind

end Token

/-- Read in order, a tree is the list of tokens it was derived from. -/
theorem Derives.inOrder_eq {phrase : Phrase} {tokens : List Token} {expr : Expr}
    (h : Derives phrase tokens expr) : expr.inOrder = tokens.map Token.kept? := by
  induction h with
  | literal literal =>
    obtain ⟨inOrder, other⟩ := Token.inOrder_literal literal
    rw [inOrder, List.map_singleton, Token.kept?_of_kind other]
  | @grouping opening closing tokens inner opens _ closes ih =>
    have openingKept : opening.kept? = some opening :=
      Token.kept?_of_kind (by rw [opens]; decide)
    have closingDropped : closing.kept? = none := by rw [Token.kept?, if_pos closes]
    simp [Expr.inOrder, ih, openingKept, closingDropped]
  | primary _ ih => exact ih
  | unary isOp _ ih =>
    rw [Expr.inOrder, ih, List.map_cons,
      Token.kept?_of_kind (Token.Kind.ne_of_unaryOp? (mem_unaryOperators_iff.mp isOp) rfl)]
  | operand _ ih => exact ih
  | binary _ isOp _ left right =>
    rw [Expr.inOrder, left, right, List.map_append, List.map_cons,
      Token.kept?_of_kind (Token.Kind.ne_of_level? (Level.mem_operators_iff.mp isOp) rfl)]

/-! ## Between layers -/

theorem Derives.of_tighter {phrase : Phrase} {tokens : List Token} {expr : Expr}
    (h : Derives phrase.tighter tokens expr) : Derives phrase tokens expr := by
  cases phrase with
  | level own => exact .operand h
  | unary => exact .primary h
  | primary => exact h

/-- A phrase is also a phrase of every looser layer. -/
theorem Derives.loosen {phrase looser : Phrase} {tokens : List Token} {expr : Expr}
    (h : Derives phrase tokens expr) (le : looser.tightness ≤ phrase.tightness) :
    Derives looser tokens expr := by
  rcases Nat.eq_or_lt_of_le le with same | lt
  · rw [Phrase.tightness_injective same]
    exact h
  · obtain ⟨closer, within⟩ := Phrase.tightness_tighter_le lt
    exact (h.loosen within).of_tighter
termination_by phrase.tightness - looser.tightness

/-- A phrase below the unary operators does not start with one. -/
theorem Derives.primary_head {tokens : List Token} {expr : Expr}
    (h : Derives .primary tokens expr) :
    ∃ token rest, tokens = token :: rest ∧ token.kind.unaryOp? = none := by
  cases h with
  | @literal token _ literal =>
    refine ⟨token, [], rfl, ?_⟩
    rcases Token.literal?_cases literal with ⟨kind, -⟩ | ⟨kind, -⟩ | ⟨kind, -⟩ <;>
    · rw [kind]
      rfl
  | grouping opens _ _ => exact ⟨_, _, rfl, by rw [opens]; rfl⟩

end Abacus
