import Abacus.Proofs.RoundTrip
import Abacus.Proofs.Turns

/-!
# Printed forms tell trees apart

In its printed form, every node stands between parentheses, and behind the opening one stands what
it is: the name of a kind of literal, the name of a group or the spelling of an operator. So the
form of a node has an end that can be found from its start, unless a string literal holds a closing
parenthesis. A minus sign alone leaves open whether it has one operand or two, but the first operand
is found by itself, and what stands behind it settles that.

Results:
1. `Token.opens_inj`: what a node is can be read off the front of its printed form.
2. `Prints.unique`: a printed form at the front of a text is the only one there.
3. `Derives.prints`: trees of the grammar are printed so.
4. `print_unambiguous`: what the printed forms of two sources have to do with their trees.
-/

namespace Abacus

/-! ## What a node is -/

namespace Token.Kind

/-- The kinds of token that nodes are made of. -/
def nodeKinds : List Kind :=
  [.integerLiteral, .booleanLiteral, .stringLiteral, .leftParen, .bang, .minus, .plus, .star,
    .slash, .equals, .bangEquals, .greater, .greaterEquals, .smaller, .smallerEquals]

/-- What a node made of a token is printed as: the name of a literal or of a group, or an operator
as it is spelled. -/
def title : Kind → List Char
  | .integerLiteral => ['I', 'n', 't', 'L', 'i', 't']
  | .booleanLiteral => ['B', 'o', 'o', 'l', 'L', 'i', 't']
  | .stringLiteral => ['S', 't', 'r', 'L', 'i', 't']
  | .leftParen => ['G', 'r', 'o', 'u', 'p']
  | kind => kind.symbol?.getD []

/-- No two kinds of node are printed as the same, and no title goes on behind a space. -/
theorem title_apart : ∀ kind ∈ nodeKinds, kind.title.all (· != ' ') = true ∧
    ∀ other ∈ nodeKinds, kind.title = other.title → kind = other := by
  decide

variable {kind : Kind}

/-- An operator in front of an operand is printed as it is spelled. -/
theorem title_of_unaryOp? (isOp : kind.unaryOp?.isSome = true) :
    kind ∈ nodeKinds ∧ kind.symbol? = some kind.title := by
  cases kind <;> first | exact ⟨by decide, rfl⟩ | cases isOp

/-- So is an operator between operands. -/
theorem title_of_level? {level : Level} (isOp : kind.level? = some level) :
    kind ∈ nodeKinds ∧ kind.symbol? = some kind.title := by
  cases kind <;> first | exact ⟨by decide, rfl⟩ | cases isOp

end Token.Kind

namespace Token

variable {token other : Token} {body rest : List Char}

/-- The printed form of a node from its start: what it is, and what is behind that. -/
def opens (token : Token) (body : List Char) : List Char :=
  '(' :: (token.kind.title ++ ' ' :: body)

/-- What a node is can be read off the front of its printed form, whatever stands behind it. -/
theorem opens_inj {otherBody otherRest : List Char} (inNode : token.kind ∈ Kind.nodeKinds)
    (otherInNode : other.kind ∈ Kind.nodeKinds)
    (same : token.opens body ++ rest = other.opens otherBody ++ otherRest) :
    token.kind = other.kind ∧ body ++ rest = otherBody ++ otherRest := by
  obtain ⟨within, apart⟩ := Kind.title_apart token.kind inNode
  obtain ⟨otherWithin, -⟩ := Kind.title_apart other.kind otherInNode
  have titles : token.kind.title ++ ' ' :: (body ++ rest) =
      other.kind.title ++ ' ' :: (otherBody ++ otherRest) := by simpa [opens] using same
  -- Both titles run up to the first space.
  obtain ⟨taken, left⟩ := @Piece.takeWhile_run _ (· != ' ') _ (' ' :: (body ++ rest))
    (List.all_eq_true.mp within) (by simp)
  obtain ⟨otherTaken, otherLeft⟩ :=
    @Piece.takeWhile_run _ (· != ' ') _ (' ' :: (otherBody ++ otherRest))
      (List.all_eq_true.mp otherWithin) (by simp)
  rw [titles] at taken left
  refine ⟨apart other.kind otherInNode (taken.symm.trans otherTaken), ?_⟩
  exact (List.cons.inj (left.symm.trans otherLeft)).2

/-- What is printed of the token of a literal, behind what it is. -/
def content (token : Token) : List Char :=
  match token.kind with
  | .integerLiteral => Nat.toDigits 10 token.number
  | _ => token.lexeme.toList

/-- Tokens of literals that are printed alike differ by their lines and leading zeros only. -/
theorem plain_eq_of_content (kinds : token.kind = other.kind) (spells : token.Spelled)
    (otherSpells : other.Spelled) (same : token.content = other.content) :
    token.plain = other.plain := by
  obtain ⟨kind, lexeme, line⟩ := token
  obtain ⟨otherKind, otherLexeme, otherLine⟩ := other
  obtain rfl : kind = otherKind := kinds
  by_cases integer : kind = .integerLiteral
  · subst integer
    have digits := Numeral.significant_toDigits spells.2
    have otherDigits := Numeral.significant_toDigits otherSpells.2
    have written : Nat.toDigits 10 (Nat.ofDigitChars 10 lexeme.toList 0) =
        Nat.toDigits 10 (Nat.ofDigitChars 10 otherLexeme.toList 0) := same
    rw [plain, plain, if_pos rfl, if_pos rfl, ← digits, ← otherDigits, written]
  · have lexemes : lexeme.toList = otherLexeme.toList := by
      cases kind
      case integerLiteral => exact absurd rfl integer
      all_goals exact same
    rw [plain_of_kind integer, plain_of_kind integer, String.toList_inj.mp lexemes]

/-- Operators and parentheses of one kind differ by their lines only. -/
theorem plain_eq_of_symbol {text : List Char} (kinds : token.kind = other.kind)
    (symbol : token.kind.symbol? = some text) (spells : token.Spelled)
    (otherSpells : other.Spelled) : token.plain = other.plain := by
  have lexeme := spells.lexeme_eq symbol
  have otherLexeme := otherSpells.lexeme_eq (kinds ▸ symbol)
  have noInteger : token.kind ≠ .integerLiteral := by
    intro integer
    rw [integer] at symbol
    cases symbol
  rw [plain_of_kind noInteger, plain_of_kind (kinds ▸ noInteger), kinds,
    String.toList_inj.mp (lexeme.trans otherLexeme.symm)]

/-- A literal is no other node. -/
theorem literal?_eq_none_of_node (node : token.kind = .leftParen ∨
    token.kind.unaryOp?.isSome = true ∨ token.kind.level?.isSome = true) :
    token.literal? = none := by
  obtain ⟨kind, lexeme, line⟩ := token
  cases kind <;> first | rfl | simp [Kind.unaryOp?, Kind.level?, Kind.binaryOp?] at node

theorem kind_ne_of_literal? {literal : Expr} (h : token.literal? = some literal) {kind : Kind}
    (node : kind = .leftParen ∨ kind.unaryOp?.isSome = true ∨ kind.level?.isSome = true) :
    token.kind ≠ kind := by
  rintro rfl
  cases (literal?_eq_none_of_node node).symm.trans h

end Token

/-! ## Printed forms -/

/-- `Prints expr text`: the text is the printed form of a tree with tokens spelled as their kinds
are. What is printed of a literal does not hold the parenthesis that closes it. -/
inductive Prints : Expr → List Char → Prop
  | literal {token : Token} {expr : Expr} :
      token.literal? = some expr → token.Spelled → (∀ c ∈ token.content, (c != ')') = true) →
      Prints expr (token.opens (token.content ++ [')']))
  | grouping {opening : Token} {inner : Expr} {text : List Char} :
      opening.kind = .leftParen → opening.Spelled → Prints inner text →
      Prints (.grouping opening inner) (opening.opens (text ++ [')']))
  | unary {op : Token} {operand : Expr} {text : List Char} :
      op.kind.unaryOp?.isSome = true → op.Spelled → Prints operand text →
      Prints (.unary op operand) (op.opens (text ++ [')']))
  | binary {op : Token} {level : Level} {left right : Expr} {before after : List Char} :
      op.kind.level? = some level → op.Spelled → Prints left before → Prints right after →
      Prints (.binary op left right) (op.opens (before ++ ' ' :: (after ++ [')'])))

theorem Token.mem_nodeKinds_of_literal? {token : Token} {expr : Expr}
    (literal : token.literal? = some expr) : token.kind ∈ Kind.nodeKinds := by
  rcases literal?_cases literal with ⟨kind, -⟩ | ⟨kind, -⟩ | ⟨kind, -⟩ <;>
  · rw [kind]
    decide

theorem Token.mem_nodeKinds_of_leftParen {token : Token} (opens : token.kind = .leftParen) :
    token.kind ∈ Kind.nodeKinds := by
  rw [opens]
  decide

/-- No other tree is printed at the front of a text that starts with a printed form, but for lines
and leading zeros, and the printed form ends at one place. -/
def Unmistakable (expr : Expr) (text : List Char) : Prop :=
  ∀ {other : Expr} {otherText rest otherRest : List Char}, Prints other otherText →
    text ++ rest = otherText ++ otherRest → expr.plain = other.plain ∧ rest = otherRest

namespace Unmistakable

variable {token opening op : Token} {expr inner operand left right : Expr}
  {text before after : List Char}

/-- A literal ends at the first closing parenthesis. -/
theorem literal (literal : token.literal? = some expr) (spells : token.Spelled)
    (within : ∀ c ∈ token.content, (c != ')') = true) :
    Unmistakable expr (token.opens (token.content ++ [')'])) := by
  intro other otherText rest otherRest printed same
  have inNode := Token.mem_nodeKinds_of_literal? literal
  cases printed with
  | @literal found _ otherLiteral otherSpells otherWithin =>
    obtain ⟨kinds, behind⟩ :=
      Token.opens_inj inNode (Token.mem_nodeKinds_of_literal? otherLiteral) same
    rw [List.append_assoc, List.append_assoc] at behind
    obtain ⟨taken, left⟩ := @Piece.takeWhile_run _ (· != ')') _ ([')'] ++ rest) within (by simp)
    obtain ⟨otherTaken, otherLeft⟩ :=
      @Piece.takeWhile_run _ (· != ')') _ ([')'] ++ otherRest) otherWithin (by simp)
    rw [behind] at taken left
    have contents : token.content = found.content := taken.symm.trans otherTaken
    have trees := Token.literal?_plain token
    rw [Token.plain_eq_of_content kinds spells otherSpells contents, Token.literal?_plain, literal,
      otherLiteral] at trees
    exact ⟨(Option.some.inj trees).symm, (List.cons.inj (left.symm.trans otherLeft)).2⟩
  | grouping opens =>
    obtain ⟨kinds, -⟩ := Token.opens_inj inNode (Token.mem_nodeKinds_of_leftParen opens) same
    exact absurd kinds (Token.kind_ne_of_literal? literal (.inl opens))
  | unary isOp =>
    obtain ⟨kinds, -⟩ := Token.opens_inj inNode (Token.Kind.title_of_unaryOp? isOp).1 same
    exact absurd kinds (Token.kind_ne_of_literal? literal (.inr (.inl isOp)))
  | binary isOp =>
    obtain ⟨kinds, -⟩ := Token.opens_inj inNode (Token.Kind.title_of_level? isOp).1 same
    exact absurd kinds (Token.kind_ne_of_literal? literal (.inr (.inr (by simp [isOp]))))

/-- A group ends behind what is in it. -/
theorem grouping (opens : opening.kind = .leftParen) (spells : opening.Spelled)
    (inside : Unmistakable inner text) :
    Unmistakable (.grouping opening inner) (opening.opens (text ++ [')'])) := by
  intro other otherText rest otherRest printed same
  have inNode := Token.mem_nodeKinds_of_leftParen opens
  cases printed with
  | literal literal =>
    obtain ⟨kinds, -⟩ := Token.opens_inj inNode (Token.mem_nodeKinds_of_literal? literal) same
    exact absurd kinds.symm (Token.kind_ne_of_literal? literal (.inl opens))
  | grouping otherOpens otherSpells otherInner =>
    obtain ⟨kinds, behind⟩ :=
      Token.opens_inj inNode (Token.mem_nodeKinds_of_leftParen otherOpens) same
    rw [List.append_assoc, List.append_assoc] at behind
    obtain ⟨inners, rests⟩ := inside otherInner behind
    have tokens := Token.plain_eq_of_symbol kinds (by rw [opens]; rfl) spells otherSpells
    refine ⟨?_, (List.cons.inj rests).2⟩
    show Expr.grouping opening.plain inner.plain = Expr.grouping _ (Expr.plain _)
    rw [tokens, inners]
  | unary isOp =>
    obtain ⟨kinds, -⟩ := Token.opens_inj inNode (Token.Kind.title_of_unaryOp? isOp).1 same
    exact absurd (kinds.symm.trans opens) (Token.Kind.ne_of_unaryOp? isOp rfl)
  | binary isOp =>
    obtain ⟨kinds, -⟩ := Token.opens_inj inNode (Token.Kind.title_of_level? isOp).1 same
    exact absurd (kinds.symm.trans opens) (Token.Kind.ne_of_level? isOp rfl)

/-- An operator with one operand ends behind it. -/
theorem unary (isOp : op.kind.unaryOp?.isSome = true) (spells : op.Spelled)
    (below : Unmistakable operand text) :
    Unmistakable (.unary op operand) (op.opens (text ++ [')'])) := by
  intro other otherText rest otherRest printed same
  obtain ⟨inNode, symbol⟩ := Token.Kind.title_of_unaryOp? isOp
  cases printed with
  | literal literal =>
    obtain ⟨kinds, -⟩ := Token.opens_inj inNode (Token.mem_nodeKinds_of_literal? literal) same
    exact absurd kinds.symm (Token.kind_ne_of_literal? literal (.inr (.inl isOp)))
  | grouping opens =>
    obtain ⟨kinds, -⟩ := Token.opens_inj inNode (Token.mem_nodeKinds_of_leftParen opens) same
    exact absurd (kinds.trans opens) (Token.Kind.ne_of_unaryOp? isOp rfl)
  | unary otherIsOp otherSpells otherOperand =>
    obtain ⟨kinds, behind⟩ :=
      Token.opens_inj inNode (Token.Kind.title_of_unaryOp? otherIsOp).1 same
    rw [List.append_assoc, List.append_assoc] at behind
    obtain ⟨operands, rests⟩ := below otherOperand behind
    have tokens := Token.plain_eq_of_symbol kinds symbol spells otherSpells
    refine ⟨?_, (List.cons.inj rests).2⟩
    show Expr.unary op.plain operand.plain = Expr.unary _ (Expr.plain _)
    rw [tokens, operands]
  | binary otherIsOp _ otherLeft _ =>
    -- Behind the first operand stands a parenthesis for one operator and a space for the other.
    obtain ⟨kinds, behind⟩ := Token.opens_inj inNode (Token.Kind.title_of_level? otherIsOp).1 same
    rw [List.append_assoc, List.append_assoc] at behind
    cases (below otherLeft behind).2

/-- An operator between operands ends behind the second one. -/
theorem binary {level : Level} (isOp : op.kind.level? = some level) (spells : op.Spelled)
    (first : Unmistakable left before) (second : Unmistakable right after) :
    Unmistakable (.binary op left right) (op.opens (before ++ ' ' :: (after ++ [')']))) := by
  intro other otherText rest otherRest printed same
  obtain ⟨inNode, symbol⟩ := Token.Kind.title_of_level? isOp
  cases printed with
  | literal literal =>
    obtain ⟨kinds, -⟩ := Token.opens_inj inNode (Token.mem_nodeKinds_of_literal? literal) same
    exact absurd kinds.symm (Token.kind_ne_of_literal? literal (.inr (.inr (by simp [isOp]))))
  | grouping opens =>
    obtain ⟨kinds, -⟩ := Token.opens_inj inNode (Token.mem_nodeKinds_of_leftParen opens) same
    exact absurd (kinds.trans opens) (Token.Kind.ne_of_level? isOp rfl)
  | unary otherIsOp _ otherOperand =>
    obtain ⟨kinds, behind⟩ :=
      Token.opens_inj inNode (Token.Kind.title_of_unaryOp? otherIsOp).1 same
    rw [List.append_assoc, List.append_assoc] at behind
    cases (first otherOperand behind).2
  | @binary _ _ _ _ otherBefore otherAfter otherIsOp otherSpells otherLeft otherRight =>
    obtain ⟨kinds, behind⟩ := Token.opens_inj inNode (Token.Kind.title_of_level? otherIsOp).1 same
    rw [List.append_assoc, List.append_assoc] at behind
    obtain ⟨lefts, between⟩ := first otherLeft behind
    have behindSpace : after ++ ')' :: rest = otherAfter ++ ')' :: otherRest := by
      simpa using between
    obtain ⟨rights, rests⟩ := second otherRight behindSpace
    have tokens := Token.plain_eq_of_symbol kinds symbol spells otherSpells
    refine ⟨?_, (List.cons.inj rests).2⟩
    show Expr.binary op.plain left.plain right.plain = Expr.binary _ (Expr.plain _) (Expr.plain _)
    rw [tokens, lefts, rights]

end Unmistakable

/-- A printed form at the front of a text is the only one there. -/
theorem Prints.unique {expr : Expr} {text : List Char} (h : Prints expr text) :
    Unmistakable expr text := by
  induction h with
  | literal literal spells within => exact Unmistakable.literal literal spells within
  | grouping opens spells _ ih => exact Unmistakable.grouping opens spells ih
  | unary isOp spells _ ih => exact Unmistakable.unary isOp spells ih
  | binary isOp spells _ _ first second => exact Unmistakable.binary isOp spells first second

/-! ## Trees of the grammar -/

/-- The string literals of a tree, from left to right. -/
def Expr.strings : Expr → List String
  | .integer _ _ | .boolean _ _ | .foreign _ => []
  | .string _ value => [value]
  | .grouping _ inner => inner.strings
  | .unary _ operand => operand.strings
  | .binary _ left right => left.strings ++ right.strings

theorem Derives.print_eq {phrase : Phrase} {tokens : List Token} {expr : Expr}
    (h : Derives phrase tokens expr) (fits : ∀ token ∈ tokens, token.Fits) :
    expr.print = .ok expr.printedForm := by
  rw [Expr.print, Style.write_eq_layout, Style.tree_describes.layout_eq,
    Expr.unlessUnwritten_of_short (h.short fits), Expr.unlessForeign, h.foreigns_eq]

/-- Neither lines nor leading zeros are printed. -/
theorem Derives.print_plain {phrase : Phrase} {tokens : List Token} {expr : Expr}
    (h : Derives phrase tokens expr) (fits : ∀ token ∈ tokens, token.Fits) :
    expr.plain.print = .ok expr.printedForm := by
  have alike := Expr.layout_mapTokens Style.tree h.keepsOperators_plain
  rw [← Style.write_eq_layout, ← Style.write_eq_layout] at alike
  exact alike.trans (h.print_eq fits)

/-- A literal is printed with its content, which does not close it unless it is a string that holds
a closing parenthesis. -/
theorem prints_literal {token : Token} {expr : Expr} (literal : token.literal? = some expr)
    (spells : token.Spelled) (clear : ∀ text ∈ expr.strings, ')' ∉ text.toList) :
    Prints expr expr.printedForm.toList := by
  have printed : expr.printedForm.toList = token.opens (token.content ++ [')']) ∧
      ∀ c ∈ token.content, (c != ')') = true := by
    obtain ⟨kind, lexeme, line⟩ := token
    cases kind <;> cases literal
    case integerLiteral.refl =>
      constructor
      · simp [Expr.printedForm, Numeral.decimal_ofNat, Token.opens, Token.content, Token.Kind.title]
      · intro c mem
        have digit : c.isDigit = true :=
          Nat.isDigit_of_mem_toDigits (by decide) (by decide) mem
        rw [bne_iff_ne]
        rintro rfl
        cases digit
    case booleanLiteral.refl =>
      constructor
      · simp [Expr.printedForm, write_read_of_spelled rfl spells, Token.opens, Token.content,
          Token.Kind.title]
      · show ∀ c ∈ lexeme.toList, (c != ')') = true
        rw [← List.all_eq_true]
        obtain rfl | rfl : lexeme = "true" ∨ lexeme = "false" := truth_of_spelled rfl spells <;>
          decide
    case stringLiteral.refl =>
      constructor
      · simp [Expr.printedForm, Token.opens, Token.content, Token.Kind.title]
      · intro c mem
        rw [bne_iff_ne]
        rintro rfl
        exact clear lexeme List.mem_cons_self mem
  rw [printed.1]
  exact .literal literal spells printed.2

/-- What derives is printed so, if no string literal holds a closing parenthesis. -/
theorem Derives.prints {phrase : Phrase} {tokens : List Token} {expr : Expr}
    (h : Derives phrase tokens expr) (spells : ∀ token ∈ tokens, token.Spelled)
    (clear : ∀ text ∈ expr.strings, ')' ∉ text.toList) : Prints expr expr.printedForm.toList := by
  induction h with
  | literal literal => exact prints_literal literal (spells _ List.mem_cons_self) clear
  | @grouping opening _ _ inner opens _ _ ih =>
    obtain ⟨own, inside, -⟩ := forall_mem_grouping spells
    have printed : (Expr.grouping opening inner).printedForm.toList =
        opening.opens (inner.printedForm.toList ++ [')']) := by
      simp [Expr.printedForm, Token.opens, opens, Token.Kind.title]
    rw [printed]
    exact .grouping opens own (ih inside clear)
  | primary _ ih => exact ih spells clear
  | @unary op _ operand listed _ ih =>
    have isOp := mem_unaryOperators_iff.mp listed
    obtain ⟨own, behind⟩ := List.forall_mem_cons.mp spells
    have lexeme := own.lexeme_eq (Token.Kind.title_of_unaryOp? isOp).2
    have printed : (Expr.unary op operand).printedForm.toList =
        op.opens (operand.printedForm.toList ++ [')']) := by
      simp [Expr.printedForm, Token.opens, lexeme]
    rw [printed]
    exact .unary isOp own (ih behind clear)
  | operand _ ih => exact ih spells clear
  | @binary _ op _ _ left right _ listed _ first second =>
    have isOp := Level.mem_operators_iff.mp listed
    obtain ⟨front, own, behind⟩ := forall_mem_binary spells
    obtain ⟨leftClear, rightClear⟩ := List.forall_mem_append.mp clear
    have lexeme := own.lexeme_eq (Token.Kind.title_of_level? isOp).2
    have printed : (Expr.binary op left right).printedForm.toList =
        op.opens (left.printedForm.toList ++ ' ' :: (right.printedForm.toList ++ [')'])) := by
      simp [Expr.printedForm, Token.opens, lexeme]
    rw [printed]
    exact .binary isOp own (first front leftClear) (second behind rightClear)

/-! ## Sources -/

/-- Two sources whose trees hold no closing parenthesis in a string have the same printed form
exactly if their trees are the same but for lines and leading zeros. If they have not, then neither
printed form is the start of the other. -/
theorem print_unambiguous {first second : String} {left right : Expr}
    (parsed : parse first = .ok left) (otherParsed : parse second = .ok right)
    (clear : ∀ text ∈ left.strings, ')' ∉ text.toList)
    (otherClear : ∀ text ∈ right.strings, ')' ∉ text.toList) :
    ∃ shape other, left.print = .ok shape ∧ right.print = .ok other ∧
      (shape = other ↔ left.plain = right.plain) ∧
      (shape.toList <+: other.toList → shape = other) := by
  have derives := derives_of_parse parsed
  have otherDerives := derives_of_parse otherParsed
  have printed := derives.prints (tokenize_spelled first) clear
  have otherPrinted := otherDerives.prints (tokenize_spelled second) otherClear
  -- Where the one is the start of the other, the trees are the same and nothing is left over.
  have starts : ∀ {more}, left.printedForm.toList ++ more = right.printedForm.toList →
      left.plain = right.plain ∧ more = [] := by
    intro more same
    rw [← List.append_nil right.printedForm.toList] at same
    exact printed.unique otherPrinted same
  have fits := fits_of_parse parsed
  have otherFits := fits_of_parse otherParsed
  refine ⟨_, _, derives.print_eq fits, otherDerives.print_eq otherFits,
    ⟨fun same => ?_, fun same => ?_⟩, ?_⟩
  · rw [same] at starts
    exact (starts (List.append_nil _)).1
  · have shown := derives.print_plain fits
    rw [same, otherDerives.print_plain otherFits] at shown
    exact (Except.ok.inj shown).symm
  · rintro ⟨more, same⟩
    obtain ⟨-, rfl⟩ := starts same
    rw [List.append_nil] at same
    exact String.toList_inj.mp same

/-- A string that looks like a number, one minus sign between operands and one in front of its
operand: the trees differ by a line and by leading zeros, which are not printed. -/
theorem print_unambiguous_minus :
    ∃ left right, parse "\"IntLit 3\" - -007" = .ok left ∧
      parse "\"IntLit 3\"\n--7" = .ok right ∧ left ≠ right ∧ left.plain = right.plain ∧
      left.print = .ok "(- (StrLit IntLit 3) (- (IntLit 7)))" ∧ right.print = left.print := by
  have parsed : parse "\"IntLit 3\" - -007" = .ok
      (.binary ⟨.minus, "-", 1⟩ (.string ⟨.stringLiteral, "IntLit 3", 1⟩ "IntLit 3")
        (.unary ⟨.minus, "-", 1⟩ (.integer ⟨.integerLiteral, "007", 1⟩ 7))) := by decide +kernel
  have otherParsed : parse "\"IntLit 3\"\n--7" = .ok
      (.binary ⟨.minus, "-", 2⟩ (.string ⟨.stringLiteral, "IntLit 3", 1⟩ "IntLit 3")
        (.unary ⟨.minus, "-", 2⟩ (.integer ⟨.integerLiteral, "7", 2⟩ 7))) := by decide +kernel
  obtain ⟨shape, other, printed, otherPrinted, alike, -⟩ :=
    print_unambiguous parsed otherParsed (by decide) (by decide)
  obtain rfl : shape = "(- (StrLit IntLit 3) (- (IntLit 7)))" :=
    Except.ok.inj (printed.symm.trans (by decide +kernel))
  obtain rfl : other = "(- (StrLit IntLit 3) (- (IntLit 7)))" :=
    Except.ok.inj (otherPrinted.symm.trans (by decide +kernel))
  exact ⟨_, _, parsed, otherParsed, by decide, alike.mp rfl, printed,
    otherPrinted.trans printed.symm⟩

/-- With a closing parenthesis in a string, a minus sign before one operand and one between two are
printed alike. -/
example :
    (parse "-\"a) (StrLit b\"").toOption.map Expr.print = some (.ok "(- (StrLit a) (StrLit b))") ∧
      (parse "\"a\" - \"b\"").toOption.map Expr.print =
        some (.ok "(- (StrLit a) (StrLit b))") := by
  decide +kernel

end Abacus
