import Abacus.Proofs.Progress
import Abacus.Proofs.RoundTrip

/-!
# Trees that survive being written

Source text has parentheses only where the tree has them. So a tree that was built by hand comes
back from its source text only if its nodes lie as the layers of the grammar would have laid them:
no operator may stand below one that binds tighter unless parentheses are around it. Any other tree
is read as well, but as one of a different shape with the same tokens.

Results:
1. `Flattens.run` and `parse_of_flattens`: tokens of a tree are read, whatever its shape.
2. `Derives.shaped`: what is derived is shaped by precedence.
3. `Flattens.derives`: what is shaped by precedence is derived.
4. `reread_iff_shaped`: a written tree is always read, and as itself exactly if it is shaped so.
-/

namespace Abacus

open Text

/-! ## Trees built by hand -/

namespace Expr

/-- Whether a tree can be written as source text: its literals are such as a source may hold, and
its operators and parentheses are spelled as their kinds are. The tokens of literals are not
written, so they may be anything. -/
def Writable : Expr → Prop
  | .integer _ value => 0 ≤ value ∧ value ≤ Integer.greatest
  | .boolean _ _ => True
  | .string _ value => ∀ c ∈ value.toList, isQuote c = false
  | .grouping token inner => token.kind = .leftParen ∧ token.Spelled ∧ inner.Writable
  | .unary token operand => token.kind.unaryOp?.isSome = true ∧ token.Spelled ∧ operand.Writable
  | .binary token left right =>
    token.kind.binaryOp?.isSome = true ∧ token.Spelled ∧ left.Writable ∧ right.Writable
  | .foreign _ => False

/-- A tree without the lines of its tokens and without the tokens of its literals. -/
def outline : Expr → Expr
  | .integer _ value => .integer ⟨.integerLiteral, "", 1⟩ value
  | .boolean _ value => .boolean ⟨.booleanLiteral, "", 1⟩ value
  | .string _ value => .string ⟨.stringLiteral, "", 1⟩ value
  | .grouping token inner => .grouping { token with line := 1 } inner.outline
  | .unary token operand => .unary { token with line := 1 } operand.outline
  | .binary token left right => .binary { token with line := 1 } left.outline right.outline
  | .foreign typeName => .foreign typeName

/-- The tightest layer of the grammar that a node lies in. -/
def phrase : Expr → Phrase
  | .binary token _ _ => (token.kind.layer?.map Phrase.level).getD .primary
  | .unary _ _ => .unary
  | _ => .primary

/-- Whether the nodes of a tree lie as the layers of the grammar lay them: an operator in front has
an operator in front, a literal or parentheses below it, an operator between operands has its own
level or a tighter layer on its left, and a tighter layer on its right. -/
def Shaped : Expr → Prop
  | .integer _ _ | .boolean _ _ | .string _ _ => True
  | .grouping _ inner => inner.Shaped
  | .unary _ operand => Phrase.unary.tightness ≤ operand.phrase.tightness ∧ operand.Shaped
  | expr@(.binary _ left right) =>
    expr.phrase.tightness ≤ left.phrase.tightness ∧
      expr.phrase.tightness < right.phrase.tightness ∧ left.Shaped ∧ right.Shaped
  | .foreign _ => False

/-- Whether a tree is shaped so can be told from its nodes. -/
instance decidableShaped : (expr : Expr) → Decidable expr.Shaped
  | .integer _ _ | .boolean _ _ | .string _ _ => .isTrue trivial
  | .grouping _ inner => inner.decidableShaped
  | .unary _ operand =>
    have := operand.decidableShaped
    inferInstanceAs (Decidable (_ ∧ _))
  | .binary _ left right =>
    have := left.decidableShaped
    have := right.decidableShaped
    inferInstanceAs (Decidable (_ ∧ _ ∧ _ ∧ _))
  | .foreign _ => .isFalse id

theorem phrase_outline (expr : Expr) : expr.outline.phrase = expr.phrase := by
  cases expr <;> rfl

theorem phrase_binary {token : Token} {level : Level} (isOp : token.kind.level? = some level)
    (left right : Expr) : (Expr.binary token left right).phrase = .level level := by
  rw [phrase, Token.Kind.layer?_eq, isOp]
  rfl

/-- The shape of a tree does not depend on lines or on the tokens of literals. -/
theorem shaped_outline (expr : Expr) : expr.outline.Shaped ↔ expr.Shaped := by
  induction expr with
  | integer token value => exact Iff.rfl
  | boolean token value => exact Iff.rfl
  | string token value => exact Iff.rfl
  | grouping token inner ih => exact ih
  | unary token operand ih =>
    rw [outline, Shaped, Shaped, phrase_outline, ih]
  | binary token left right first second =>
    rw [outline, Shaped, Shaped, phrase_outline, phrase_outline, first, second]
    rfl
  | «foreign» typeName => exact Iff.rfl

/-- What a tree is written as does not depend on them either. -/
theorem layout_outline (style : Style) (expr : Expr) :
    style.layout expr.outline = style.layout expr := by
  induction expr with
  | integer token value => rfl
  | boolean token value => rfl
  | string token value => rfl
  | grouping token inner ih => rw [outline, Style.layout, Style.layout, ih]
  | unary token operand ih => rw [outline, Style.layout, Style.layout, ih]
  | binary token left right first second =>
    rw [outline, Style.layout, Style.layout, first, second]
  | «foreign» typeName => rfl

theorem WrittenAs.congr {own expr : Expr} {tokens : List Token} (h : own.WrittenAs tokens)
    (same : own.outline = expr.outline) : expr.WrittenAs tokens := by
  obtain ⟨text, written, starts, reread⟩ := h
  refine ⟨text, ?_, starts, reread⟩
  rw [← layout_outline, ← same, layout_outline, written]

end Expr

/-! ## What is derived is shaped -/

namespace Token

variable {token other : Token}

theorem kind_eq_of_plain (same : other.plain = token.plain) : other.kind = token.kind := by
  rw [← plain_kind, same, plain_kind]

/-- Operators and parentheses that differ by their lines only. -/
theorem line_eq_of_plain (same : other.plain = token.plain)
    (kind : other.kind ≠ .integerLiteral) :
    ({ other with line := 1 } : Token) = { token with line := 1 } := by
  rw [← plain_of_kind kind, same, plain_of_kind (kind_eq_of_plain same ▸ kind)]

/-- A literal is shaped and lies in the tightest layer, and its outline does not tell its token. -/
theorem shaped_literal {expr : Expr} (literal : token.literal? = some expr) :
    expr.Shaped ∧ expr.phrase = .primary ∧ ∀ f, (expr.mapTokens f).outline = expr.outline := by
  rcases literal?_cases literal with ⟨-, rfl⟩ | ⟨-, rfl⟩ | ⟨-, rfl⟩ <;>
    exact ⟨trivial, rfl, fun _ => rfl⟩

/-- Tokens of literals that differ by their lines and leading zeros stand for one value. -/
theorem literal_of_plain (same : other.plain = token.plain) {own : Expr}
    (literal : token.literal? = some own) :
    ∃ again, other.literal? = some again ∧ again.outline = own.outline := by
  have kept := literal?_plain other
  rw [same, literal?_plain, literal] at kept
  obtain ⟨again, found, plain⟩ := Option.map_eq_some_iff.mp kept.symm
  refine ⟨again, found, ?_⟩
  rw [← (shaped_literal found).2.2 Token.plain, plain, (shaped_literal literal).2.2]

end Token

/-- What is derived in a layer is shaped by precedence, and its root lies in that layer. -/
theorem Derives.shaped {phrase : Phrase} {tokens : List Token} {expr : Expr}
    (h : Derives phrase tokens expr) :
    expr.Shaped ∧ phrase.tightness ≤ expr.phrase.tightness := by
  induction h with
  | literal literal =>
    obtain ⟨shaped, primary, -⟩ := Token.shaped_literal literal
    rw [primary]
    exact ⟨shaped, Nat.le_refl _⟩
  | grouping _ _ _ ih => exact ⟨ih.1, Nat.le_refl _⟩
  | primary _ ih => exact ⟨ih.1, Nat.le_trans (by decide) ih.2⟩
  | unary _ _ ih => exact ⟨⟨ih.2, ih.1⟩, Nat.le_refl _⟩
  | operand _ ih =>
    rw [Phrase.tightness_operand] at ih
    exact ⟨ih.1, Nat.le_of_succ_le ih.2⟩
  | binary _ isOp _ first second =>
    rw [Phrase.tightness_operand] at second
    rw [Expr.Shaped, Expr.phrase_binary (Level.mem_operators_iff.mp isOp)]
    exact ⟨⟨first.2, second.2, first.1, second.1⟩, Nat.le_refl _⟩

/-! ## Tokens of a tree -/

/-- `Flattens expr tokens`: from left to right, the tokens are those of a tree, whatever its shape.
They may differ from the ones in the tree by their lines, and in literals by anything but the
value. -/
inductive Flattens : Expr → List Token → Prop
  | literal {token : Token} {own expr : Expr} :
      token.literal? = some own → token.Fits → own.outline = expr.outline →
      Flattens expr [token]
  | grouping {opening closing token : Token} {tokens : List Token} {inner : Expr} :
      opening.kind = .leftParen → opening.plain = token.plain → Flattens inner tokens →
      closing.kind = .rightParen →
      Flattens (.grouping token inner) (opening :: (tokens ++ [closing]))
  | unary {op token : Token} {tokens : List Token} {operand : Expr} :
      op.kind.unaryOp?.isSome = true → op.plain = token.plain → Flattens operand tokens →
      Flattens (.unary token operand) (op :: tokens)
  | binary {op token : Token} {level : Level} {before after : List Token} {left right : Expr} :
      Flattens left before → op.kind.level? = some level → op.plain = token.plain →
      Flattens right after → Flattens (.binary token left right) (before ++ op :: after)

/-- A literal is written as a token of its own value, whatever its token is. -/
theorem flattens_literal {token : Token} {own expr : Expr} (literal : token.literal? = some own)
    (spells : token.Spelled) (fits : token.Fits) (same : own.outline = expr.outline) :
    ∃ tokens, Flattens expr tokens ∧ expr.WrittenAs tokens :=
  ⟨[token], .literal literal fits same, (Expr.writtenAs_literal literal spells fits).congr same⟩

/-- The written form of a tree has its tokens. -/
theorem Expr.Writable.flattens {expr : Expr} (writable : expr.Writable) :
    ∃ tokens, Flattens expr tokens ∧ expr.WrittenAs tokens := by
  induction expr with
  | integer token value =>
    obtain ⟨n, rfl⟩ := Int.eq_ofNat_of_zero_le writable.1
    have literal : (Token.decimal n 1).literal? = some (.integer (Token.decimal n 1) n) := by
      rw [Token.literal?_of_integer rfl, Token.number_decimal]
    exact flattens_literal literal (Token.spelled_decimal n 1) (Token.fits_decimal writable.2 1) rfl
  | boolean token value =>
    have spells : (⟨.booleanLiteral, Truth.write value, 1⟩ : Token).Spelled :=
      Piece.spells_truth (by cases value <;> simp [Truth.write])
    have read : (Expr.boolean ⟨.booleanLiteral, Truth.write value, 1⟩
        (Truth.read (Truth.write value))).outline = (Expr.boolean token value).outline := by
      rw [Truth.read_write]
      rfl
    exact flattens_literal rfl spells (by rintro ⟨⟩) read
  | string token value =>
    exact flattens_literal (rfl : (⟨.stringLiteral, value, 1⟩ : Token).literal? = some _) writable
      (by rintro ⟨⟩) rfl
  | grouping token inner ih =>
    obtain ⟨opens, spells, inside⟩ := writable
    obtain ⟨tokens, flattens, written⟩ := ih inside
    exact ⟨_, .grouping opens rfl flattens rfl,
      written.grouping opens spells (rfl : (⟨.rightParen, ")", 1⟩ : Token).kind = _) rfl⟩
  | unary token operand ih =>
    obtain ⟨isOp, spells, behind⟩ := writable
    obtain ⟨tokens, flattens, written⟩ := ih behind
    exact ⟨_, .unary isOp rfl flattens, written.unary isOp spells⟩
  | binary token left right first second =>
    obtain ⟨isOp, spells, front, behind⟩ := writable
    obtain ⟨op, found⟩ := Option.isSome_iff_exists.mp isOp
    have level : token.kind.level? = some op.level := by
      rw [Token.Kind.level?, found]
      rfl
    obtain ⟨before, flattensLeft, leftWritten⟩ := first front
    obtain ⟨after, flattensRight, rightWritten⟩ := second behind
    exact ⟨_, .binary flattensLeft level rfl flattensRight,
      leftWritten.binary rightWritten level spells⟩
  | «foreign» typeName => exact writable.elim

namespace Flattens

variable {expr : Expr} {tokens again : List Token}

/-- Tokens of a tree that differ by their lines and leading zeros are still its tokens. -/
theorem of_plain (h : Flattens expr tokens) (same : again.map Token.plain = tokens.map Token.plain)
    (fits : ∀ token ∈ again, token.Fits) : Flattens expr again := by
  induction h generalizing again with
  | literal literal _ outline =>
    obtain ⟨found, rfl, kept⟩ := List.map_eq_singleton_iff.mp same
    obtain ⟨own, foundLiteral, ownOutline⟩ := Token.literal_of_plain kept literal
    exact .literal foundLiteral (fits found List.mem_cons_self) (ownOutline.trans outline)
  | grouping opens kept _ closes ih =>
    obtain ⟨opening, rest, rfl, openingSame, restSame⟩ := List.map_eq_cons_iff.mp same
    rw [List.map_append] at restSame
    obtain ⟨inside, last, rfl, insideSame, lastSame⟩ := List.map_eq_append_iff.mp restSame
    obtain ⟨closing, rfl, closingSame⟩ := List.map_eq_singleton_iff.mp lastSame
    exact .grouping (Token.kind_eq_of_plain openingSame ▸ opens) (openingSame.trans kept)
      (ih insideSame (forall_mem_grouping fits).2.1)
      (Token.kind_eq_of_plain closingSame ▸ closes)
  | unary isOp kept _ ih =>
    obtain ⟨op, rest, rfl, opSame, restSame⟩ := List.map_eq_cons_iff.mp same
    exact .unary (Token.kind_eq_of_plain opSame ▸ isOp) (opSame.trans kept)
      (ih restSame (List.forall_mem_cons.mp fits).2)
  | binary _ isOp kept _ first second =>
    rw [List.map_append] at same
    obtain ⟨front, rest, rfl, frontSame, restSame⟩ := List.map_eq_append_iff.mp same
    obtain ⟨op, behind, rfl, opSame, behindSame⟩ := List.map_eq_cons_iff.mp restSame
    obtain ⟨frontFits, -, behindFits⟩ := forall_mem_binary fits
    exact .binary (first frontSame frontFits) (Token.kind_eq_of_plain opSame ▸ isOp)
      (opSame.trans kept) (second behindSame behindFits)

/-- A pass over the tokens of a tree goes over one operand. -/
theorem run (h : Flattens expr tokens) (opened : Nat) :
    (Progress.expecting opened).run tokens = .complete opened := by
  induction h generalizing opened with
  | literal literal fits _ =>
    exact Progress.step_literal literal (Token.unfit?_eq_none_iff.mpr fits)
  | grouping opens _ _ closes ih =>
    rw [Progress.run_cons, Progress.step_opening opens, Progress.run_append, ih]
    exact Progress.step_closing closes
  | unary isOp _ _ ih =>
    rw [Progress.run_cons, Progress.step_unary isOp]
    exact ih opened
  | binary _ isOp _ _ first second =>
    rw [Progress.run_append, first, Progress.run_cons, Progress.step_binary isOp]
    exact second opened

/-- The tokens of a tree that is shaped by precedence derive that tree, in the layer of its
root. -/
theorem derives (h : Flattens expr tokens) (shaped : expr.Shaped) :
    ∃ again, Derives expr.phrase tokens again ∧ again.outline = expr.outline := by
  induction h with
  | @literal token own expr literal _ outline =>
    obtain ⟨-, primary, -⟩ := Token.shaped_literal literal
    have layer : expr.phrase = .primary := by
      rw [← expr.phrase_outline, ← outline, own.phrase_outline, primary]
    rw [layer]
    exact ⟨own, .literal literal, outline⟩
  | @grouping opening closing token tokens inner opens kept _ closes ih =>
    obtain ⟨again, derived, outline⟩ := ih shaped
    refine ⟨.grouping opening again, .grouping opens (derived.loosen (Nat.zero_le _)) closes, ?_⟩
    rw [Expr.outline, Expr.outline, outline, Token.line_eq_of_plain kept (by simp [opens])]
  | @unary op token tokens operand isOp kept _ ih =>
    obtain ⟨tight, below⟩ := shaped
    obtain ⟨again, derived, outline⟩ := ih below
    refine ⟨.unary op again, .unary (mem_unaryOperators_iff.mpr isOp) (derived.loosen tight), ?_⟩
    have other : op.kind ≠ .integerLiteral := Token.Kind.ne_of_unaryOp? isOp rfl
    rw [Expr.outline, Expr.outline, outline, Token.line_eq_of_plain kept other]
  | @binary op token level before after left right _ isOp kept _ first second =>
    have tokenOp : token.kind.level? = some level := by
      rw [← Token.kind_eq_of_plain kept, isOp]
    rw [Expr.phrase_binary tokenOp]
    rw [Expr.Shaped, Expr.phrase_binary tokenOp] at shaped
    obtain ⟨front, behind, leftShaped, rightShaped⟩ := shaped
    obtain ⟨leftAgain, leftDerived, leftOutline⟩ := first leftShaped
    obtain ⟨rightAgain, rightDerived, rightOutline⟩ := second rightShaped
    have tighter : level.operand.tightness ≤ right.phrase.tightness := by
      rw [Phrase.tightness_operand]
      exact behind
    refine ⟨.binary op leftAgain rightAgain,
      .binary (leftDerived.loosen front) (Level.mem_operators_iff.mpr isOp)
        (rightDerived.loosen tighter), ?_⟩
    have other : op.kind ≠ .integerLiteral := Token.Kind.ne_of_level? isOp rfl
    rw [Expr.outline, Expr.outline, leftOutline, rightOutline, Token.line_eq_of_plain kept other]

end Flattens

/-! ## Sources -/

/-- Tokens of a tree are read, unless they nest too deeply. -/
theorem parse_of_flattens {source : String} {expr : Expr}
    (h : Flattens expr (tokenize source)) :
    (∃ found, parse source = .error (.rejected ⟨.nestedTooDeeply, found⟩)) ∨
      ∃ again, parse source = .ok again := by
  have accepted : survey source = .accepted := by
    rw [survey, Progress.run_append, h.run]
    exact Progress.step_ended (sourceEnd_kind source)
  rcases survey_cases source with deep | ⟨again, parsed, -⟩ | ⟨error, -, refused⟩
  · exact .inl deep
  · exact .inr ⟨again, parsed⟩
  · rw [accepted] at refused
    cases refused

/-- The source text of a tree is read, unless it nests too deeply. It is read as that tree, but for
lines and the tokens of literals, exactly if the tree is shaped by precedence. -/
theorem reread_iff_shaped {expr : Expr} (writable : expr.Writable) :
    ∃ text, expr.render = .ok text ∧
      ((∀ found, parse text ≠ .error (.rejected ⟨.nestedTooDeeply, found⟩)) →
        ∃ again, parse text = .ok again ∧ (again.outline = expr.outline ↔ expr.Shaped)) := by
  obtain ⟨tokens, flattens, written⟩ := writable.flattens
  obtain ⟨text, layout, same, fits⟩ := written.tokenize
  have flat := flattens.of_plain same fits
  refine ⟨text, by rw [Expr.render, Style.write_eq_layout, layout], fun shallow => ?_⟩
  rcases parse_of_flattens flat with ⟨found, deep⟩ | ⟨again, parsed⟩
  · exact absurd deep (shallow found)
  refine ⟨again, parsed, ?_, ?_⟩
  · intro outline
    rw [← expr.shaped_outline, ← outline, again.shaped_outline]
    exact (derives_of_parse parsed).shaped.1
  · intro shaped
    obtain ⟨own, derived, outline⟩ := flat.derives shaped
    rcases parse_of_derives (derived.loosen (Nat.zero_le _)) with ⟨error, -, failed⟩ | ⟨-, parsedOwn⟩
    · cases parsed.symm.trans failed
    · rw [Except.ok.inj (parsed.symm.trans parsedOwn), outline]

/-- The negation of a sum comes back if the sum has parentheses around it. Without them, its first
part alone is negated. -/
theorem reread_negated_sum :
    (∃ again, parse "-(1 + 2)" = .ok again ∧ again.outline =
      (Expr.unary ⟨.minus, "-", 7⟩ (.grouping ⟨.leftParen, "(", 8⟩
        (.binary ⟨.plus, "+", 9⟩ (.integer ⟨.identifier, "one", 8⟩ 1)
          (.integer ⟨.integerLiteral, "002", 8⟩ 2)))).outline) ∧
    ∃ again, parse "-1 + 2" = .ok again ∧ again.outline ≠
      (Expr.unary ⟨.minus, "-", 7⟩
        (.binary ⟨.plus, "+", 9⟩ (.integer ⟨.identifier, "one", 8⟩ 1)
          (.integer ⟨.integerLiteral, "002", 8⟩ 2))).outline := by
  have sum : (Expr.binary ⟨.plus, "+", 9⟩ (.integer ⟨.identifier, "one", 8⟩ 1)
      (.integer ⟨.integerLiteral, "002", 8⟩ 2)).Writable :=
    ⟨rfl, rfl, ⟨by decide, by decide⟩, ⟨by decide, by decide⟩⟩
  have shallow {text : String} (accepted : (parse text).toBool = true) :
      ∀ found, parse text ≠ .error (.rejected ⟨.nestedTooDeeply, found⟩) := by
    intro found deep
    rw [deep] at accepted
    cases accepted
  constructor
  · obtain ⟨text, rendered, reread⟩ := @reread_iff_shaped
      (.unary ⟨.minus, "-", 7⟩ (.grouping ⟨.leftParen, "(", 8⟩ _)) ⟨rfl, rfl, rfl, rfl, sum⟩
    obtain rfl : text = "-(1 + 2)" := Except.ok.inj (rendered.symm.trans (by decide +kernel))
    obtain ⟨again, parsed, same⟩ := reread (shallow (by decide +kernel))
    exact ⟨again, parsed, same.mpr (by decide)⟩
  · obtain ⟨text, rendered, reread⟩ := @reread_iff_shaped
      (.unary ⟨.minus, "-", 7⟩ _) ⟨rfl, rfl, sum⟩
    obtain rfl : text = "-1 + 2" := Except.ok.inj (rendered.symm.trans (by decide +kernel))
    obtain ⟨again, parsed, same⟩ := reread (shallow (by decide +kernel))
    exact ⟨again, parsed, fun outline => absurd (same.mp outline) (by decide)⟩

end Abacus
