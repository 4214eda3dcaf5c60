import Abacus.Proofs.Meaning

/-!
# The course of an evaluation

Evaluation takes the nodes of a tree in postorder. It comes to a right operand only if the left one
has a value, and it stops at the first node that fails for what is wrong there by itself. So the
nodes of a tree are divided by that node: those before it have values, and those behind it are never
come to, but for the ones around it.

Results:
1. `Expr.completes_of_meaning`: a tree with a value has completed all of its nodes.
2. `Expr.exists_failsAt`: a tree that fails does so at the first node at which something is wrong.
3. `Expr.meaning_of_fault?`: a tree fails if something is wrong at a node and those before it have
   values.
-/

namespace Abacus

/-! ## Nodes that evaluation comes to -/

/-- `expr.Means value`: a tree has a value. -/
def Expr.Means (expr : Expr) (value : Value) : Prop :=
  expr.meaning = .ok value

/-- `expr.Reaches node`: the evaluation of a tree comes to a node of it. A right operand is come to
only if the left one has a value. -/
inductive Expr.Reaches : Expr → Expr → Prop
  | self (expr : Expr) : Reaches expr expr
  | inner {token : Token} {inner node : Expr} :
      Reaches inner node → Reaches (.grouping token inner) node
  | operand {token : Token} {operand node : Expr} :
      Reaches operand node → Reaches (.unary token operand) node
  | left {token : Token} {left right node : Expr} :
      Reaches left node → Reaches (.binary token left right) node
  | right {token : Token} {left right node : Expr} {value : Value} :
      left.meaning = .ok value → Reaches right node → Reaches (.binary token left right) node

/-- A node that evaluation comes to has short numerals if the tree has. -/
theorem Expr.Reaches.short {expr node : Expr} (h : expr.Reaches node)
    (short : expr.NumeralsShort) : node.NumeralsShort := by
  induction h with
  | self => exact short
  | inner _ ih | operand _ ih => exact ih short
  | left _ ih => exact ih short.1
  | right _ _ ih => exact ih short.2

/-- Where evaluation comes to a part, it comes to the nodes that the part by itself comes to. -/
theorem Expr.Reaches.trans {expr part node : Expr} (outer : expr.Reaches part)
    (h : part.Reaches node) : expr.Reaches node := by
  induction outer with
  | self => exact h
  | inner _ ih => exact .inner (ih h)
  | operand _ ih => exact .operand (ih h)
  | left _ ih => exact .left (ih h)
  | right ok _ ih => exact .right ok (ih h)

/-- `expr.Completes node`: the evaluation of a tree comes to a node of it and gives it a value. -/
def Expr.Completes (expr node : Expr) : Prop :=
  expr.Reaches node ∧ ∃ value, node.meaning = .ok value

/-- `expr.FailsAt before node failure`: the evaluation of a tree completes the nodes before a node,
comes to that node and fails for what is wrong there by itself. -/
structure Expr.FailsAt (expr : Expr) (before : List Expr) (node : Expr) (failure : EvalFailure) :
    Prop where
  before : ∀ earlier ∈ before, expr.Completes earlier
  reaches : expr.Reaches node
  fault : node.fault? = some failure

namespace Expr

section
variable {part expr node : Expr} {front before : List Expr} {failure : EvalFailure}

/-- What holds of the evaluation of a part holds of the whole, if evaluation comes to the part. -/
theorem Completes.within (leads : ∀ node, part.Reaches node → expr.Reaches node)
    (h : part.Completes node) : expr.Completes node :=
  ⟨leads node h.1, h.2⟩

theorem Completes.top {value : Value} (h : expr.meaning = .ok value) (mem : node ∈ [expr]) :
    expr.Completes node := by
  rw [List.mem_singleton.mp mem]
  exact ⟨.self expr, value, h⟩

theorem FailsAt.within (leads : ∀ node, part.Reaches node → expr.Reaches node)
    (h : part.FailsAt before node failure) : expr.FailsAt before node failure :=
  ⟨fun earlier mem => (h.before earlier mem).within leads, leads node h.reaches, h.fault⟩

/-- More nodes may have been completed in front of those that have. -/
theorem FailsAt.behind (earlier : ∀ node ∈ front, expr.Completes node)
    (h : expr.FailsAt before node failure) : expr.FailsAt (front ++ before) node failure := by
  refine ⟨fun other mem => ?_, h.reaches, h.fault⟩
  rcases List.mem_append.mp mem with inFront | inBefore
  · exact earlier other inFront
  · exact h.before other inBefore

end

section
variable {token : Token} {operand left right : Expr} {failure : EvalFailure}

/-- A node whose operands have values fails exactly if its operator does. -/
theorem mapError_failed_eq_error {applied : Except EvalError Value} :
    applied.mapError .failed = .error failure ↔
      ∃ error, applied = .error error ∧ .failed error = failure := by
  cases applied with
  | error error =>
    constructor
    · rintro ⟨⟩
      exact ⟨error, rfl, rfl⟩
    · rintro ⟨_, ⟨⟩, rfl⟩
      rfl
  | ok value => exact ⟨nofun, nofun⟩

/-- An operator in front of an operand is at fault itself if the operand has a value and its node
fails nevertheless. -/
theorem fault?_unary_iff :
    (Expr.unary token operand).fault? = some failure ↔
      (∃ value, operand.meaning = .ok value) ∧
        (Expr.unary token operand).meaning = .error failure := by
  cases below : operand.meaning with
  | error own => simp [fault?, below]
  | ok value =>
    rw [fault?, below, meaning_unary below, mapError_failed_eq_error]
    cases applied : token.applyUnary value <;> simp [applied]

/-- So is an operator between operands. -/
theorem fault?_binary_iff :
    (Expr.binary token left right).fault? = some failure ↔
      (∃ value, left.meaning = .ok value) ∧ (∃ value, right.meaning = .ok value) ∧
        (Expr.binary token left right).meaning = .error failure := by
  cases before : left.meaning with
  | error own => simp [fault?, before]
  | ok leftValue =>
    cases behind : right.meaning with
    | error own => simp [fault?, before, behind]
    | ok rightValue =>
      rw [fault?, before, behind, meaning_binary before behind, mapError_failed_eq_error]
      cases applied : token.applyBinary leftValue rightValue <;> simp [applied]

end

/-- A tree with a value has completed all of its nodes. -/
theorem completes_of_meaning {expr : Expr} {value : Value} (h : expr.meaning = .ok value) :
    ∀ node ∈ expr.postorder, expr.Completes node := by
  intro node mem
  induction expr generalizing value with
  | integer | boolean | string | «foreign» => exact .top h mem
  | grouping token inner ih =>
    rcases List.mem_append.mp mem with below | top
    · exact (ih h below).within fun _ => .inner
    · exact .top h top
  | unary token operand ih =>
    obtain ⟨inner, ok, -⟩ := bind_eq_ok.mp h
    rcases List.mem_append.mp mem with below | top
    · exact (ih ok below).within fun _ => .operand
    · exact .top h top
  | binary token left right first second =>
    obtain ⟨leftValue, before, rest⟩ := bind_eq_ok.mp h
    obtain ⟨rightValue, behind, -⟩ := bind_eq_ok.mp rest
    rcases List.mem_append.mp mem with below | top
    · rcases List.mem_append.mp below with inLeft | inRight
      · exact (first before inLeft).within fun _ => .left
      · exact (second behind inRight).within fun _ => .right before
    · exact .top h top

/-- A tree that fails does so at the first node in postorder at which something is wrong. -/
theorem exists_failsAt {expr : Expr} {failure : EvalFailure} (h : expr.meaning = .error failure) :
    ∃ before node after, expr.postorder = before ++ node :: after ∧
      expr.FailsAt before node failure := by
  induction expr with
  | integer | boolean | string => cases h
  | «foreign» typeName =>
    cases h
    exact ⟨[], _, [], rfl, by simp, .self _, rfl⟩
  | grouping token inner ih =>
    obtain ⟨before, node, after, split, fails⟩ := ih h
    exact ⟨before, node, after ++ [.grouping token inner], by simp [postorder, split],
      fails.within fun _ => .inner⟩
  | unary token operand ih =>
    cases below : operand.meaning with
    | error own =>
      rw [meaning_operandFails below] at h
      obtain ⟨before, node, after, split, fails⟩ := ih (below.trans h)
      exact ⟨before, node, after ++ [.unary token operand], by simp [postorder, split],
        fails.within fun _ => .operand⟩
    | ok value =>
      exact ⟨operand.postorder, _, [], rfl,
        fun other mem => (completes_of_meaning below other mem).within fun _ => .operand,
        .self _, fault?_unary_iff.mpr ⟨⟨value, below⟩, h⟩⟩
  | binary token left right first second =>
    cases before : left.meaning with
    | error own =>
      rw [meaning_leftFails before] at h
      obtain ⟨earlier, node, after, split, fails⟩ := first (before.trans h)
      exact ⟨earlier, node, after ++ right.postorder ++ [.binary token left right],
        by simp [postorder, split], fails.within fun _ => .left⟩
    | ok leftValue =>
      have inLeft : ∀ other ∈ left.postorder, (Expr.binary token left right).Completes other :=
        fun other mem => (completes_of_meaning before other mem).within fun _ => .left
      cases behind : right.meaning with
      | error own =>
        rw [meaning_rightFails before behind] at h
        obtain ⟨earlier, node, after, split, fails⟩ := second (behind.trans h)
        exact ⟨left.postorder ++ earlier, node, after ++ [.binary token left right],
          by simp [postorder, split], (fails.within fun _ => .right before).behind inLeft⟩
      | ok rightValue =>
        refine ⟨left.postorder ++ right.postorder, _, [], rfl, fun other mem => ?_, .self _,
          fault?_binary_iff.mpr ⟨⟨leftValue, before⟩, ⟨rightValue, behind⟩, h⟩⟩
        rcases List.mem_append.mp mem with leftMem | rightMem
        · exact inLeft other leftMem
        · exact (completes_of_meaning behind other rightMem).within fun _ => .right before

/-- A tree comes last in its own postorder. -/
theorem mem_postorder (expr : Expr) : expr ∈ expr.postorder := by
  cases expr <;> simp [postorder]

/-- Nothing is wrong at a tree with a value. -/
theorem fault?_of_meaning {expr : Expr} {value : Value} (h : expr.meaning = .ok value) :
    expr.fault? = none := by
  have first := expr.findSome?_postorder
  rw [failure?, h, List.findSome?_eq_none_iff] at first
  exact first expr expr.mem_postorder

/-- A tree fails if something is wrong at a node and the nodes before it have values. -/
theorem meaning_of_fault? {expr node : Expr} {before after : List Expr} {failure : EvalFailure}
    (split : expr.postorder = before ++ node :: after)
    (earlier : ∀ other ∈ before, ∃ value, other.meaning = .ok value)
    (fault : node.fault? = some failure) : expr.meaning = .error failure := by
  have first := expr.findSome?_postorder
  have none : before.findSome? fault? = none :=
    List.findSome?_eq_none_iff.mpr fun other mem =>
      (earlier other mem).elim fun _ => fault?_of_meaning
  rw [split, List.findSome?_append, none, List.findSome?_cons, fault, failure?] at first
  cases means : expr.meaning with
  | error own => rw [means] at first; cases first; rfl
  | ok value => rw [means] at first; cases first

end Expr

end Abacus
