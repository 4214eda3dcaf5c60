import Mathlib.Algebra.Group.Int.Defs
import Abacus.Proofs.Nesting
import Abacus.Proofs.Reentry

/-!
# Checked arithmetic and exact arithmetic

Integers have 32 bits, and the range of a result is checked at each operator and nowhere else. Told
without any range, operators work on integers of any size, and division drops the fraction. Checked
operators differ from those in one way only: a result out of range is refused. So where a tree has a
value, every part of it has its exact value, and where a tree overflows, it does so at the first
node that fails, on operands in range with an exact result that is not.

Results:
1. `UnaryOp.apply_limits` and `BinaryOp.apply_limits`: an operator gives its exact result if that is
   in range, overflows if not, and fails for another reason where there is no exact result.
2. `Expr.exactValue?_of_meaning`: a value of a tree is its exact value.
3. `Expr.overflows_of_fault?` and `Overflows.fault?`: what it takes for a node to overflow.
4. `evaluate_exact`: which values evaluation gives, and where it overflows.
-/

namespace Abacus

/-! ## Exact values -/

/-- The numbers that 32 bits hold, one of them for the sign. -/
def Integer.InBits (n : Int) : Prop :=
  -2 ^ 31 ≤ n ∧ n < 2 ^ 31

theorem Integer.fits_iff_inBits {n : Int} : fits n = true ↔ InBits n :=
  fits_iff

namespace Token.Kind

/-- What an operator in front of an operand comes to on integers of any size. -/
def exactUnary? : Token.Kind → Value → Option Value
  | .bang, .boolean value => some (.boolean !value)
  | .minus, .integer n => some (.integer (-n))
  | _, _ => none

/-- What an operator between two operands comes to on integers of any size. Division drops the
fraction, and there is none by zero. -/
def exactBinary? : Token.Kind → Value → Value → Option Value
  | .plus, .integer m, .integer n => some (.integer (m + n))
  | .minus, .integer m, .integer n => some (.integer (m - n))
  | .star, .integer m, .integer n => some (.integer (m * n))
  | .slash, .integer m, .integer n => if n = 0 then none else some (.integer (m.tdiv n))
  | .greater, .integer m, .integer n => some (.boolean (decide (m > n)))
  | .greaterEquals, .integer m, .integer n => some (.boolean (decide (m ≥ n)))
  | .smaller, .integer m, .integer n => some (.boolean (decide (m < n)))
  | .smallerEquals, .integer m, .integer n => some (.boolean (decide (m ≤ n)))
  | .equals, .integer m, .integer n => some (.boolean (decide (m = n)))
  | .equals, .boolean a, .boolean b => some (.boolean (decide (a = b)))
  | .bangEquals, .integer m, .integer n => some (.boolean (decide (m ≠ n)))
  | .bangEquals, .boolean a, .boolean b => some (.boolean (decide (a ≠ b)))
  | _, _, _ => none

end Token.Kind

namespace Expr

/-- The value of a tree where integers have any size. -/
def exactValue? : Expr → Option Value
  | .integer _ n => some (.integer n)
  | .boolean _ value => some (.boolean value)
  | .string _ text => some (.string text)
  | .grouping _ inner => inner.exactValue?
  | .unary token operand => operand.exactValue?.bind token.kind.exactUnary?
  | .binary token left right =>
    left.exactValue?.bind fun first => right.exactValue?.bind fun second =>
      token.kind.exactBinary? first second
  | .foreign _ => none

/-- Whether the integer literals of a tree are in range. -/
def LiteralsInBits : Expr → Prop
  | .integer _ n => Integer.InBits n
  | .boolean _ _ | .string _ _ | .foreign _ => True
  | .grouping _ inner => inner.LiteralsInBits
  | .unary _ operand => operand.LiteralsInBits
  | .binary _ left right => left.LiteralsInBits ∧ right.LiteralsInBits

end Expr

/-- Whether a value is in range, if it is an integer. -/
def Value.InBits : Value → Prop
  | .integer n => Integer.InBits n
  | .boolean _ | .string _ => True

/-! ## Operators -/

/-- `Limits exactly applied`: an operator does what it does exactly, but refuses what is out of
range. Where there is nothing exact, it fails for another reason. -/
inductive Limits : Option Value → Except EvalError.Cause Value → Prop
  | inBits {value : Value} : value.InBits → Limits (some value) (.ok value)
  | overflow {n : Int} : ¬ Integer.InBits n → Limits (some (.integer n)) (.error .overflow)
  | undefined {cause : EvalError.Cause} : cause ≠ .overflow → Limits none (.error cause)

theorem checked_limits (result : Int) : Limits (some (.integer result)) (checked result) := by
  unfold checked
  split
  · exact .inBits (Integer.fits_iff_inBits.mp ‹_›)
  · exact .overflow (mt Integer.fits_iff_inBits.mpr ‹_›)

theorem UnaryOp.apply_limits (op : UnaryOp) (operand : Value) :
    Limits (op.kind.exactUnary? operand) (op.apply operand) := by
  cases op with
  | not =>
    cases operand with
    | boolean value => exact .inBits trivial
    | integer | string => exact .undefined (by decide)
  | negate =>
    cases operand with
    | integer n => exact checked_limits (-n)
    | boolean | string => exact .undefined (by decide)

theorem Arithmetic.apply_limits (op : Arithmetic) (m n : Int) :
    Limits ((BinaryOp.arithmetic op).kind.exactBinary? (.integer m) (.integer n))
      (op.apply m n) := by
  cases op with
  | add => exact checked_limits (m + n)
  | subtract => exact checked_limits (m - n)
  | multiply => exact checked_limits (m * n)
  | divide =>
    by_cases zero : n = 0
    · subst zero
      exact .undefined (by decide)
    · have same : (BinaryOp.arithmetic .divide).kind.exactBinary? (.integer m) (.integer n) =
          some (.integer (m.tdiv n)) := if_neg zero
      have applied : Arithmetic.divide.apply m n = checked (m.tdiv n) := by
        rw [Arithmetic.apply, if_neg fun both => zero both.2, Arithmetic.exact,
          Integer.quotient_eq_tdiv]
      rw [same, applied]
      exact checked_limits _

theorem BinaryOp.apply_limits (op : BinaryOp) (left right : Value) :
    Limits (op.kind.exactBinary? left right) (op.apply left right) := by
  cases op with
  | arithmetic op =>
    cases left <;> cases right
    case integer.integer m n => exact op.apply_limits m n
    all_goals cases op <;> exact .undefined (by decide)
  | comparison op =>
    cases left <;> cases right
    case integer.integer m n => cases op <;> exact .inBits trivial
    all_goals cases op <;> exact .undefined (by decide)
  | equality op =>
    cases left <;> cases right
    case integer.integer m n =>
      have same : (BinaryOp.equality op).kind.exactBinary? (.integer m) (.integer n) =
          some (.boolean (op.holds (m == n))) := by
        cases op <;> simp [kind, Token.Kind.exactBinary?, Equality.holds, Bool.beq_eq_decide_eq]
      rw [same]
      exact .inBits trivial
    case boolean.boolean a b =>
      have same : (BinaryOp.equality op).kind.exactBinary? (.boolean a) (.boolean b) =
          some (.boolean (op.holds (a == b))) := by
        cases op <;> cases a <;> cases b <;> rfl
      rw [same]
      exact .inBits trivial
    all_goals cases op <;> exact .undefined (by decide)

/-- The outcome of an operator token is that of its operator, at the token. -/
theorem Token.applyUnary_limits (token : Token) (operand : Value) :
    ∃ applied, Limits (token.kind.exactUnary? operand) applied ∧
      token.applyUnary operand = applied.mapError (⟨·, token⟩) := by
  unfold applyUnary
  cases found : token.kind.unaryOp? with
  | none =>
    have same : token.kind.exactUnary? operand = none := by
      cases kind : token.kind <;> first | rfl | simp [kind, Kind.unaryOp?] at found
    rw [same]
    exact ⟨.error .unsupportedUnary, .undefined (by decide), rfl⟩
  | some op =>
    rw [← UnaryOp.kind_of_unaryOp? found]
    exact ⟨_, op.apply_limits operand, rfl⟩

theorem Token.applyBinary_limits (token : Token) (left right : Value) :
    ∃ applied, Limits (token.kind.exactBinary? left right) applied ∧
      token.applyBinary left right = applied.mapError (⟨·, token⟩) := by
  unfold applyBinary
  cases found : token.kind.binaryOp? with
  | none =>
    have same : token.kind.exactBinary? left right = none := by
      cases kind : token.kind <;> first | rfl | simp [kind, Kind.binaryOp?] at found
    rw [same]
    exact ⟨.error .unsupportedBinary, .undefined (by decide), rfl⟩
  | some op =>
    rw [← BinaryOp.kind_of_binaryOp? found]
    exact ⟨_, op.apply_limits left right, rfl⟩

namespace Limits

variable {exactly : Option Value} {applied : Except EvalError.Cause Value} {token : Token}

/-- A value is the exact one, and in range. -/
theorem eq_some_of_ok {value : Value} (h : Limits exactly applied)
    (ok : applied.mapError (⟨·, token⟩ : _ → EvalError) = .ok value) :
    exactly = some value ∧ value.InBits := by
  cases h with
  | inBits fits => cases ok; exact ⟨rfl, fits⟩
  | overflow => cases ok
  | undefined => cases ok

/-- An overflow is that of an exact integer out of range, at the token of the operator. -/
theorem eq_overflow_iff (h : Limits exactly applied) {found : Token} :
    applied.mapError (⟨·, token⟩) = .error (⟨.overflow, found⟩ : EvalError) ↔
      found = token ∧ ∃ n, exactly = some (.integer n) ∧ ¬ Integer.InBits n := by
  constructor
  · intro same
    cases h with
    | inBits => cases same
    | overflow out => cases same; exact ⟨rfl, _, rfl, out⟩
    | undefined other => cases same; exact absurd rfl other
  · rintro ⟨rfl, n, rfl, out⟩
    cases h with
    | inBits fits => exact absurd fits out
    | overflow => rfl

end Limits

section
variable {token found : Token} {operand left right value : Value}

theorem Token.exactUnary?_of_ok (h : token.applyUnary operand = .ok value) :
    token.kind.exactUnary? operand = some value ∧ value.InBits := by
  obtain ⟨applied, limits, eq⟩ := token.applyUnary_limits operand
  exact limits.eq_some_of_ok (eq.symm.trans h)

theorem Token.exactBinary?_of_ok (h : token.applyBinary left right = .ok value) :
    token.kind.exactBinary? left right = some value ∧ value.InBits := by
  obtain ⟨applied, limits, eq⟩ := token.applyBinary_limits left right
  exact limits.eq_some_of_ok (eq.symm.trans h)

theorem Token.applyUnary_eq_overflow_iff :
    token.applyUnary operand = .error ⟨.overflow, found⟩ ↔ found = token ∧
      ∃ n, token.kind.exactUnary? operand = some (.integer n) ∧ ¬ Integer.InBits n := by
  obtain ⟨applied, limits, eq⟩ := token.applyUnary_limits operand
  rw [eq]
  exact limits.eq_overflow_iff

theorem Token.applyBinary_eq_overflow_iff :
    token.applyBinary left right = .error ⟨.overflow, found⟩ ↔ found = token ∧
      ∃ n, token.kind.exactBinary? left right = some (.integer n) ∧ ¬ Integer.InBits n := by
  obtain ⟨applied, limits, eq⟩ := token.applyBinary_limits left right
  rw [eq]
  exact limits.eq_overflow_iff

end

/-! ## Trees -/

namespace Expr

/-- A value of a tree is its exact value, and it is in range if the literals of the tree are. -/
theorem exactValue?_of_meaning {expr : Expr} {value : Value} (means : expr.meaning = .ok value) :
    expr.exactValue? = some value ∧ (expr.LiteralsInBits → value.InBits) := by
  induction expr generalizing value with
  | integer token n => cases means; exact ⟨rfl, id⟩
  | boolean | string => cases means; exact ⟨rfl, fun _ => trivial⟩
  | grouping token inner ih => exact ih means
  | unary token operand ih =>
    obtain ⟨inner, below, -⟩ := bind_eq_ok.mp means
    rw [meaning_unary below] at means
    obtain ⟨exact, inBits⟩ := Token.exactUnary?_of_ok (mapError_eq_ok.mp means)
    rw [exactValue?, (ih below).1]
    exact ⟨exact, fun _ => inBits⟩
  | binary token left right first second =>
    obtain ⟨leftValue, before, rest⟩ := bind_eq_ok.mp means
    obtain ⟨rightValue, behind, -⟩ := bind_eq_ok.mp rest
    rw [meaning_binary before behind] at means
    obtain ⟨exact, inBits⟩ := Token.exactBinary?_of_ok (mapError_eq_ok.mp means)
    rw [exactValue?, (first before).1, (second behind).1]
    exact ⟨exact, fun _ => inBits⟩
  | «foreign» typeName => cases means

/-- Literals in range are short. -/
theorem LiteralsInBits.short {expr : Expr} (literals : expr.LiteralsInBits) :
    expr.NumeralsShort := by
  induction expr with
  | integer token n => exact Integer.short_of_fits (Integer.fits_iff_inBits.mpr literals)
  | boolean | string | «foreign» => trivial
  | grouping token inner ih | unary token operand ih => exact ih literals
  | binary token left right first second => exact ⟨first literals.1, second literals.2⟩

/-- The literals of a part are literals of the whole. -/
theorem Reaches.literalsInBits {expr node : Expr} (h : expr.Reaches node)
    (literals : expr.LiteralsInBits) : node.LiteralsInBits := by
  induction h with
  | self => exact literals
  | inner _ ih | operand _ ih => exact ih literals
  | left _ ih => exact ih literals.1
  | right _ _ ih => exact ih literals.2

end Expr

namespace Token.Kind

variable {kind : Token.Kind} {result : Int}

/-- Only an integer has an exact result that is one. -/
theorem integer_of_exactUnary? {operand : Value}
    (h : kind.exactUnary? operand = some (.integer result)) : ∃ n, operand = .integer n := by
  unfold exactUnary? at h
  split at h
  · cases h
  · exact ⟨_, rfl⟩
  · cases h

theorem integers_of_exactBinary? {left right : Value}
    (h : kind.exactBinary? left right = some (.integer result)) :
    ∃ m n, left = .integer m ∧ right = .integer n ∧ (kind = .slash → n ≠ 0) := by
  unfold exactBinary? at h
  split at h
  case h_4 m n =>
    refine ⟨m, n, rfl, rfl, fun _ zero => ?_⟩
    rw [if_pos zero] at h
    cases h
  all_goals first | cases h; exact ⟨_, _, rfl, rfl, by simp⟩ | cases h

end Token.Kind

/-- `Overflows comesTo token node`: the operands of a node come to integers in range, its divisor,
if it divides, is not zero, and its exact result is out of range. The token is that of the node. -/
inductive Overflows (comesTo : Expr → Value → Prop) (token : Token) : Expr → Prop
  | unary {operand : Expr} {n result : Int} :
      comesTo operand (.integer n) → Integer.InBits n →
      token.kind.exactUnary? (.integer n) = some (.integer result) →
      ¬ Integer.InBits result → Overflows comesTo token (.unary token operand)
  | binary {left right : Expr} {m n result : Int} :
      comesTo left (.integer m) → Integer.InBits m →
      comesTo right (.integer n) → Integer.InBits n →
      (token.kind = .slash → n ≠ 0) →
      token.kind.exactBinary? (.integer m) (.integer n) = some (.integer result) →
      ¬ Integer.InBits result → Overflows comesTo token (.binary token left right)

/-- A node with literals in range that is at fault for an overflow has operands in range and an
exact result that is not. -/
theorem Expr.overflows_of_fault? {node : Expr} {found : Token} (literals : node.LiteralsInBits)
    (fault : node.fault? = some (.failed ⟨.overflow, found⟩)) :
    Overflows Expr.Means found node := by
  cases node with
  | integer | boolean | string | grouping | «foreign» => cases fault
  | unary token operand =>
    obtain ⟨⟨value, below⟩, fails⟩ := fault?_unary_iff.mp fault
    rw [meaning_unary below, mapError_failed_eq_error] at fails
    obtain ⟨_, fails, ⟨⟩⟩ := fails
    obtain ⟨rfl, result, exact, out⟩ := Token.applyUnary_eq_overflow_iff.mp fails
    obtain ⟨n, rfl⟩ := Token.Kind.integer_of_exactUnary? exact
    exact .unary below ((exactValue?_of_meaning below).2 literals) exact out
  | binary token left right =>
    obtain ⟨⟨leftValue, before⟩, ⟨rightValue, behind⟩, fails⟩ := fault?_binary_iff.mp fault
    rw [meaning_binary before behind, mapError_failed_eq_error] at fails
    obtain ⟨_, fails, ⟨⟩⟩ := fails
    obtain ⟨rfl, result, exact, out⟩ := Token.applyBinary_eq_overflow_iff.mp fails
    obtain ⟨m, n, rfl, rfl, divides⟩ := Token.Kind.integers_of_exactBinary? exact
    exact .binary before ((exactValue?_of_meaning before).2 literals.1) behind
      ((exactValue?_of_meaning behind).2 literals.2) divides exact out

namespace Overflows

variable {found : Token} {node : Expr} {writer : Writer}

/-- Such a node is at fault for an overflow, whatever its literals are. -/
theorem fault? (h : Overflows Expr.Means found node) :
    node.fault? = some (.failed ⟨.overflow, found⟩) := by
  cases h with
  | unary below _ exact out =>
    have fails := Token.applyUnary_eq_overflow_iff.mpr ⟨rfl, _, exact, out⟩
    refine Expr.fault?_unary_iff.mpr ⟨⟨_, below⟩, ?_⟩
    rw [Expr.meaning_unary below, fails]
    rfl
  | binary before _ behind _ _ exact out =>
    have fails := Token.applyBinary_eq_overflow_iff.mpr ⟨rfl, _, exact, out⟩
    refine Expr.fault?_binary_iff.mpr ⟨⟨_, before⟩, ⟨_, behind⟩, ?_⟩
    rw [Expr.meaning_binary before behind, fails]
    rfl

/-- The operands of a node are evaluated to what they mean if evaluation comes to them. -/
theorem evaluated (h : Overflows Expr.Means found node)
    (same : ∀ operand, node.Reaches operand → (evaluate operand writer).1 = operand.meaning) :
    Overflows (fun operand value => (evaluate operand writer).1 = .ok value) found node := by
  cases h with
  | unary below inBits exact out =>
    exact .unary ((same _ (.operand (.self _))).trans below) inBits exact out
  | binary before leftInBits behind rightInBits divides exact out =>
    exact .binary ((same _ (.left (.self _))).trans before) leftInBits
      ((same _ (.right before (.self _))).trans behind) rightInBits divides exact out

/-- What the operands of a node are evaluated to is what they mean. -/
theorem means (h : Overflows (fun operand value => (evaluate operand writer).1 = .ok value) found
    node) : Overflows Expr.Means found node := by
  cases h with
  | unary below inBits exact out => exact .unary (meaning_of_evaluate below) inBits exact out
  | binary before leftInBits behind rightInBits divides exact out =>
    exact .binary (meaning_of_evaluate before) leftInBits (meaning_of_evaluate behind) rightInBits
      divides exact out

end Overflows

/-- The literals of a tree that derives from tokens that fit are in range. -/
theorem Derives.literalsInBits {phrase : Phrase} {tokens : List Token} {expr : Expr}
    (h : Derives phrase tokens expr) (fits : ∀ token ∈ tokens, token.Fits) :
    expr.LiteralsInBits := by
  induction h with
  | @literal token expr literal =>
    have tokenFits := fits token List.mem_cons_self
    obtain ⟨kind, lexeme, line⟩ := token
    cases kind <;> cases literal
    case integerLiteral.refl =>
      have small := (tokenFits rfl).2
      refine ⟨by omega, ?_⟩
      unfold Integer.greatest at small
      omega
    case booleanLiteral.refl => trivial
    case stringLiteral.refl => trivial
  | grouping _ _ _ ih => exact ih (forall_mem_grouping fits).2.1
  | primary _ ih | operand _ ih => exact ih fits
  | unary _ _ ih => exact ih (List.forall_mem_cons.mp fits).2
  | binary _ _ _ first second =>
    obtain ⟨before, -, behind⟩ := forall_mem_binary fits
    exact ⟨first before, second behind⟩

/-! ## Evaluation -/

namespace EvalError

/-- No other cause is told in the words of an overflow. -/
theorem Cause.eq_overflow_of_problem {cause : EvalError.Cause} {spelling : String}
    (same : cause.problem spelling = Cause.overflow.problem spelling) : cause = .overflow := by
  cases cause with
  | overflow => rfl
  | _ =>
    unfold problem at same
    dsimp only at same
    have heads := congrArg (fun text : String => text.toList.take 3) same
    simp [String.toList_append] at heads

theorem message_eq_overflow_iff {error : EvalError} :
    error.message = error.token.report
        ("Integer overflow, result of '" ++ error.token.lexeme ++ "' does not fit in 32 bits") ↔
      error.cause = .overflow := by
  constructor
  · intro same
    exact Cause.eq_overflow_of_problem ((String.append_right_inj _).mp same)
  · intro cause
    rw [message, cause]
    rfl

end EvalError

/-- A tree that parses has its literals in range. -/
theorem literalsInBits_of_parse {source : String} {expr : Expr} (h : parse source = .ok expr) :
    expr.LiteralsInBits :=
  (derives_of_parse h).literalsInBits (fits_of_parse h)

/-- Checked arithmetic and exact arithmetic agree. Let the literals of a tree be in range, and let
its evaluation not go too deep. If it has a value, each of its parts is evaluated to its exact
value, which is in range. It overflows at a token exactly if that is the token of the first node in
postorder without a value, the operands of that node are evaluated to integers in range, the divisor
is not zero if it divides, and its exact result is out of range. Trees that parse have their
literals in range. -/
theorem evaluate_exact {expr : Expr} {writer : Writer} (literals : expr.LiteralsInBits)
    (shallow : ∀ root, (evaluate expr writer).1 ≠ tooDeep root) :
    (∀ value, (evaluate expr writer).1 = .ok value → ∀ part ∈ expr.postorder,
      ∃ own, (evaluate part writer).1 = .ok own ∧ part.exactValue? = some own ∧ own.InBits) ∧
    (∀ token,
      (∃ error, (evaluate expr writer).1 = .error (.failed error) ∧ error.token = token ∧
        error.message = token.report
          ("Integer overflow, result of '" ++ token.lexeme ++ "' does not fit in 32 bits")) ↔
      ∃ before node after, expr.postorder = before ++ node :: after ∧
        (∀ earlier ∈ before, ∃ value, (evaluate earlier writer).1 = .ok value) ∧
        Overflows (fun operand value => (evaluate operand writer).1 = .ok value) token node) ∧
    ∀ source tree, parse source = .ok tree → tree.LiteralsInBits := by
  have short : writer.debugging = true → expr.NumeralsShort := fun _ => literals.short
  refine ⟨fun value evaluates part mem => ?_, fun token => ⟨?_, ?_⟩,
    fun source tree => literalsInBits_of_parse⟩
  · have means := meaning_of_evaluate evaluates
    obtain ⟨reaches, own, means⟩ := Expr.completes_of_meaning means part mem
    obtain ⟨exactly, inBits⟩ := Expr.exactValue?_of_meaning means
    exact ⟨own, (reaches.evaluate_fst shallow short).trans means, exactly,
      inBits (reaches.literalsInBits literals)⟩
  · rintro ⟨⟨cause, token⟩, fails, rfl, message⟩
    obtain rfl : cause = .overflow := EvalError.message_eq_overflow_iff.mp message
    rw [evaluate_fst shallow short] at fails
    obtain ⟨before, node, after, split, first⟩ := Expr.exists_failsAt fails
    have overflows := Expr.overflows_of_fault? (first.reaches.literalsInBits literals) first.fault
    refine ⟨before, node, after, split, fun other mem => ?_,
      overflows.evaluated fun operand below =>
        (first.reaches.trans below).evaluate_fst shallow short⟩
    obtain ⟨reaches, value, means⟩ := first.before other mem
    exact ⟨value, (reaches.evaluate_fst shallow short).trans means⟩
  · rintro ⟨before, node, after, split, earlier, overflows⟩
    have means : expr.meaning = .error (.failed ⟨.overflow, token⟩) :=
      Expr.meaning_of_fault? split
        (fun other mem => (earlier other mem).imp fun _ => meaning_of_evaluate)
        overflows.means.fault?
    exact ⟨⟨.overflow, token⟩, (evaluate_fst shallow short).trans means, rfl, rfl⟩

/-- The least integer is in range and its negation is not, so the tree that negates it overflows at
its own minus sign, with the least integer as its operand. -/
theorem evaluate_least_negated :
    ∃ (negated : Expr) (writer : Writer),
      negated = .unary ⟨.minus, "-", 2⟩ (.grouping ⟨.leftParen, "(", 2⟩
        (.binary ⟨.minus, "-", 1⟩
          (.unary ⟨.minus, "-", 1⟩ (.integer ⟨.integerLiteral, "2147483647", 1⟩ 2147483647))
          (.integer ⟨.integerLiteral, "1", 1⟩ 1))) ∧
      writer = ⟨2, true, 0, ""⟩ ∧ negated.LiteralsInBits ∧
      ∃ before node after, negated.postorder = before ++ node :: after ∧
        (∀ earlier ∈ before, ∃ value, (evaluate earlier writer).1 = .ok value) ∧
        Overflows (fun operand value => (evaluate operand writer).1 = .ok value)
          ⟨.minus, "-", 2⟩ node := by
  obtain ⟨negated, is⟩ : ∃ negated : Expr,
      negated = .unary ⟨.minus, "-", 2⟩ (.grouping ⟨.leftParen, "(", 2⟩
        (.binary ⟨.minus, "-", 1⟩
          (.unary ⟨.minus, "-", 1⟩ (.integer ⟨.integerLiteral, "2147483647", 1⟩ 2147483647))
          (.integer ⟨.integerLiteral, "1", 1⟩ 1))) := ⟨_, rfl⟩
  have literals : negated.LiteralsInBits := by
    rw [is]
    exact ⟨⟨by decide, by decide⟩, by decide, by decide⟩
  have overflows : (evaluate negated ⟨2, true, 0, ""⟩).1 =
      .error (.failed ⟨.overflow, ⟨.minus, "-", 2⟩⟩) := by
    rw [is]
    decide +kernel
  have agrees := evaluate_exact literals fun root deep => by cases overflows.symm.trans deep
  exact ⟨negated, _, is, rfl, literals, (agrees.2.1 _).mp ⟨_, overflows, rfl, rfl⟩⟩

end Abacus
