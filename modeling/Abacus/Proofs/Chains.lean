import Abacus.Proofs.Acceptance
import Abacus.Proofs.Load

/-!
# Long chains are too deep for the grammar

Descent folds a chain of operators in a loop, so a chain may have any length. The tree of a chain
leans to the left, one node deeper for each operator, and an engine goes down the whole of it. So an
engine has a parse tree for every chain, but no expression for the long ones, whatever it is that
limits it.

Results:
1. `height_le_depth`: a parse tree is at least as deep as the expression that it is folded to is
   high.
2. `Engine.Contract.reference_of_high`: an engine gives up on expressions that are higher than it
   can go.
3. `reference_sum`: so it does on a sum of enough ones, which descent reads.
-/

namespace Abacus

/-- How many nodes are above each other in an expression. -/
def Expr.height : Expr → Nat
  | .grouping _ inner => inner.height + 1
  | .unary _ operand => operand.height + 1
  | .binary _ left right => max left.height right.height + 1
  | _ => 1

namespace Grammar

/-! ## Heights and depths -/

/-- What is made at a node is at most one higher than its parts. -/
theorem height_le_of_makeExpr {rule : Rule} {results : List (Lexeme ⊕ Expr)} {own : Expr}
    {height : Nat} (made : makeExpr rule results = .ok own)
    (parts : ∀ part, .inr part ∈ results → part.height ≤ height) : own.height ≤ height + 1 := by
  unfold makeExpr at made
  split at made
  · cases made
    exact Nat.le_succ_of_le (parts _ (by simp))
  · cases made
    exact Nat.succ_le_succ (Nat.max_le.mpr ⟨parts _ (by simp), parts _ (by simp)⟩)
  · cases made
    exact Nat.succ_le_succ (parts _ (by simp))
  · cases made
    exact Nat.succ_le_succ (parts _ (by simp))
  · rename_i number
    cases read : readInteger number.token with
    | error error =>
      rw [read] at made
      cases made
    | ok expr =>
      rw [read] at made
      cases made
      unfold readInteger at read
      split at read
      · cases read
      · split at read <;> cases read
        exact Nat.le_add_left 1 height
  · cases made
    exact Nat.le_add_left 1 height
  · cases made
    exact Nat.le_add_left 1 height
  · cases made

mutual

/-- A parse tree is at least as deep as the expression that it is folded to is high. -/
theorem height_le_depth (tree : Tree) {expr : Expr}
    (folded : tree.fold makeExpr = .ok (.inr expr)) : expr.height ≤ tree.depth := by
  cases tree with
  | lexeme own => cases folded
  | node rule parts =>
    obtain ⟨results, done⟩ := Tree.parts_of_foldNode folded
    have heights := height_le_depthParts parts done
    rw [Tree.fold, done, Tree.foldNode] at folded
    split at folded
    · cases folded
    · rename_i own made
      cases folded
      exact height_le_of_makeExpr made heights

theorem height_le_depthParts (parts : List Tree) {results : List (Lexeme ⊕ Expr)}
    (folded : Tree.foldParts makeExpr parts = .ok results) :
    ∀ part, .inr part ∈ results → part.height ≤ Tree.depthParts parts := by
  cases parts with
  | nil =>
    cases folded
    exact fun _ mem => absurd mem List.not_mem_nil
  | cons first rest =>
    obtain ⟨⟨own, one⟩, others, more⟩ := Tree.parts_of_foldCons folded
    rw [Tree.foldParts, one, more] at folded
    cases folded
    intro part mem
    rcases List.mem_cons.mp mem with rfl | later
    · exact Nat.le_trans (height_le_depth first one) (Nat.le_max_left _ _)
    · exact Nat.le_trans (height_le_depthParts rest more part later) (Nat.le_max_right _ _)

end

/-- What is concluded to be an expression was that expression. -/
theorem eq_of_conclude {transformed : Except (Interruption Fault) (Lexeme ⊕ Expr)} {expr : Expr}
    (h : conclude transformed = .ok expr) : transformed = .ok (.inr expr) := by
  unfold conclude at h
  split at h <;> cases h
  rfl

/-- An engine gives up on the tree of a tidy source whose expression is higher than the engine can
go. -/
theorem Engine.Contract.reference_of_high {engine : Engine} (contract : engine.Contract expressions)
    {source : String} {expr : Expr} (parsed : Abacus.parse source = .ok expr)
    (tidy : Tidy source.toList) (high : engine.limit < expr.height) :
    (∃ tree, engine.parse source = .ok tree) ∧ engine.reference source = .error .exhausted := by
  obtain ⟨tree, accepted⟩ := (contract.exists_tree_iff_tidy parsed).mpr tidy
  refine ⟨⟨tree, accepted⟩, ?_⟩
  rcases contract.reference_of_parse parsed accepted with reference | ⟨-, exhausted⟩
  · rw [Engine.reference_of_tree accepted] at reference
    have transformed := eq_of_conclude reference
    -- A result would be the fold of the tree, which is deeper than what can be transformed.
    rcases contract.transform_cases makeExpr tree with stop | folded
    · cases stop.symm.trans transformed
    · have deep := Nat.lt_of_lt_of_le high (height_le_depth tree (folded.symm.trans transformed))
      exact absurd transformed (contract.transform_ne_ok makeExpr tree _ deep)
  · exact exhausted

end Grammar

/-! ## Sums of ones -/

namespace Chain

/-- Any number of operands behind the first one, each with a sign in front of it. -/
def text (links : Nat) : List Char :=
  '1' :: (List.replicate links ['+', '1']).flatten

def source (links : Nat) : String :=
  String.ofList (text links)

def one : Token := ⟨.integerLiteral, "1", 1⟩

def plus : Token := ⟨.plus, "+", 1⟩

def tokens (links : Nat) : List Token :=
  one :: (List.replicate links [plus, one]).flatten

/-- A sum is folded to the left. -/
def sum : Nat → Expr
  | 0 => .integer one 1
  | links + 1 => .binary plus (sum links) (.integer one 1)

theorem text_succ (links : Nat) : text (links + 1) = '1' :: '+' :: text links := by
  rw [text, List.replicate_succ, List.flatten_cons]
  rfl

theorem tokens_succ (links : Nat) : tokens (links + 1) = one :: plus :: tokens links := by
  rw [tokens, List.replicate_succ, List.flatten_cons]
  rfl

/-- Behind a chain, there may be another link as well as in front of it. -/
theorem tokens_concat (links : Nat) : tokens (links + 1) = tokens links ++ [plus, one] := by
  rw [tokens, List.replicate_succ', List.flatten_concat]
  rfl

theorem height_sum (links : Nat) : (sum links).height = links + 1 := by
  induction links with
  | zero => rfl
  | succ links ih =>
    rw [sum, Expr.height, ih]
    exact congrArg (· + 1) (Nat.max_eq_left (Nat.le_add_left 1 links))

/-- The text of a chain is cut into its operands and signs. -/
theorem drain_text (links : Nat) : (⟨text links, 1⟩ : Cursor).drain.1 = tokens links := by
  have digit : Token.Kind.integerLiteral.Spells ['1'] :=
    ⟨List.cons_ne_nil _ _, List.forall_mem_singleton.mpr rfl⟩
  induction links with
  | zero => exact Cursor.drain_last digit 1
  | succ links ih =>
    have first := @Cursor.drain_text .integerLiteral ['1'] ('+' :: text links) digit
      (by rintro c ⟨⟩; rfl) 1
    have second := @Cursor.drain_text .plus ['+'] (text links) rfl (by rintro c ⟨⟩; rfl) 1
    rw [text_succ, tokens_succ, ← ih]
    exact first.trans (congrArg (one :: ·) second)

theorem tokenize_source (links : Nat) : tokenize (source links) = tokens links := by
  show (⟨(String.ofList (text links)).toList, 1⟩ : Cursor).drain.1 = _
  rw [String.toList_ofList, drain_text]

/-- There is neither white space nor a string literal in a chain. -/
theorem tidy_source (links : Nat) : Tidy (source links).toList := by
  have known : ∀ c ∈ text links, c = '1' ∨ c = '+' := by
    intro c mem
    rcases List.mem_cons.mp mem with rfl | behind
    · exact .inl rfl
    · obtain ⟨link, listed, within⟩ := List.mem_flatten.mp behind
      rw [List.eq_of_mem_replicate listed] at within
      simpa [or_comm] using within
  rw [source, String.toList_ofList, ← List.append_nil (text links), tidy_append]
  · refine ⟨fun c mem blank => ?_, tidy_nil⟩
    rcases known c mem with rfl | rfl <;> cases blank
  · intro c mem
    rcases known c mem with rfl | rfl <;> rfl

/-- A chain is derived as a phrase of the level of its signs. -/
theorem derives_sum (links : Nat) : Derives (.level .term) (tokens links) (sum links) := by
  have literal : Derives .primary [one] (.integer one 1) := .literal rfl
  induction links with
  | zero => exact literal.loosen (by decide)
  | succ links ih =>
    rw [tokens_concat]
    exact .binary ih (by decide) (literal.loosen (by decide))

/-- Nothing is ever open in a chain. -/
theorem peak_tokens (links : Nat) :
    (Load.expecting 0 []).peak groupCost (tokens links) = 0 := by
  induction links with
  | zero => rfl
  | succ links ih =>
    rw [tokens_succ]
    show max 0 (max 0 ((Load.expecting 0 []).peak groupCost (tokens links))) = 0
    rw [ih]
    rfl

/-- Descent reads chains of any length. -/
theorem parse_source (links : Nat) : parse (source links) = .ok (sum links) := by
  have derives : Derives .expression (tokenize (source links)) (sum links) := by
    rw [tokenize_source]
    exact (derives_sum links).loosen (by decide)
  refine parse_eq_ok_of_derives derives (fun found deep => ?_) fun token mem => ?_
  · have exceeds := peak_of_tooDeep deep
    rw [tokenize_source, peak_tokens] at exceeds
    exact absurd exceeds (Nat.not_lt_zero _)
  · rw [tokenize_source] at mem
    rcases List.mem_cons.mp mem with rfl | behind
    · decide
    · obtain ⟨link, listed, within⟩ := List.mem_flatten.mp behind
      rw [List.eq_of_mem_replicate listed] at within
      have each : ∀ token ∈ [plus, one], token.Fits := by decide
      exact each token within

end Chain

open Chain

/-- Descent reads a sum of any number of ones. An engine has a parse tree of it, but gives up on it
if there are too many of them. -/
theorem reference_sum {engine : Grammar.Engine} (contract : engine.Contract .expressions)
    {links : Nat} (long : engine.limit ≤ links) :
    parse (source links) = .ok (sum links) ∧
      (∃ tree, engine.parse (source links) = .ok tree) ∧
      engine.reference (source links) = .error .exhausted :=
  ⟨parse_source links, contract.reference_of_high (parse_source links) (tidy_source links)
    ((height_sum links).symm ▸ Nat.lt_succ_of_le long)⟩

theorem transformLevels_le : Grammar.transformLevels ≤ callLimit :=
  Nat.le_trans (Nat.div_le_self _ _) (Nat.sub_le _ _)

/-- A source with a parse tree and an expression by descent, but none by the grammar. -/
theorem reference_ne_parse :
    (∃ tree, Grammar.Engine.shifting.parse (source 1000) = .ok tree) ∧
      parse (source 1000) = .ok (sum 1000) ∧
      Grammar.Engine.shifting.reference (source 1000) = .error .exhausted := by
  obtain ⟨parsed, accepted, exhausted⟩ :=
    @reference_sum _ Grammar.Engine.shifting_contract 1000 transformLevels_le
  exact ⟨accepted, parsed, exhausted⟩

/-- A tidy source that descent accepts and the grammar does not. -/
theorem not_reference_of_tidy :
    parse (source 1000) = .ok (sum 1000) ∧ Tidy (source 1000).toList ∧
      ¬∃ other, Grammar.Engine.shifting.reference (source 1000) = .ok other := by
  obtain ⟨parsed, -, exhausted⟩ :=
    @reference_sum _ Grammar.Engine.shifting_contract 1000 transformLevels_le
  refine ⟨parsed, tidy_source 1000, ?_⟩
  rintro ⟨other, reference⟩
  cases exhausted.symm.trans reference

end Abacus
