import Abacus.Grammar.Production
import Abacus.Proofs.Derivation

/-!
# Sentences of the grammar

The productions of the grammar come in few shapes: those of a level pass a phrase of the tighter
layer on or put an operator of that level between two phrases, and below the levels stand unary
operators, literals and parentheses. `Parsed` says by layers which lexemes are a phrase and which
tree they have.

Results:
1. `shape_of_mem` and `mem_of_shape`: the shapes of the productions.
2. `Parsed.yields` and `made_of_yields`: what the layers say is what the productions say.
3. `sentence_iff`: a sentence is an expression with a node around it.
-/

namespace Abacus.Grammar

/-! ## Phrases -/

/-- The rule of a layer. -/
def phraseRule : Phrase → Rule
  | .level .equality => .equality
  | .level .comparison => .comparison
  | .level .term => .term
  | .level .factor => .factor
  | .unary => .unary
  | .primary => .primary

/-- The name of the node of a literal. -/
def literalNode? : Token.Kind → Option Rule
  | .integerLiteral => some .integer
  | .booleanLiteral => some .boolean
  | .stringLiteral => some .string
  | _ => none

/-- `Parsed phrase lexemes tree`: the lexemes are a phrase of that layer, and `tree` is its tree. -/
inductive Parsed : Phrase → List Lexeme → Tree → Prop
  /-- A literal. -/
  | literal {lexeme : Lexeme} {rule : Rule} :
      literalNode? lexeme.kind = some rule →
      Parsed .primary [lexeme] (.node rule [.lexeme lexeme])
  /-- An expression in parentheses. -/
  | grouping {opening closing : Lexeme} {lexemes : List Lexeme} {inner : Tree} :
      opening.kind = .leftParen → Parsed .expression lexemes inner →
      closing.kind = .rightParen →
      Parsed .primary (opening :: (lexemes ++ [closing]))
        (.node .grouping [.lexeme opening, inner, .lexeme closing])
  /-- A phrase of the layer below unary operators. -/
  | primary {lexemes : List Lexeme} {tree : Tree} :
      Parsed .primary lexemes tree → Parsed .unary lexemes tree
  /-- An operator in front of an operand. -/
  | unary {op : Lexeme} {lexemes : List Lexeme} {operand : Tree} :
      op.kind ∈ unaryOperators → Parsed .unary lexemes operand →
      Parsed .unary (op :: lexemes) (.node .unary [.lexeme op, operand])
  /-- A phrase of the layer below a level. -/
  | operand {level : Level} {lexemes : List Lexeme} {tree : Tree} :
      Parsed level.operand lexemes tree → Parsed (.level level) lexemes tree
  /-- An operator of a level between operands. -/
  | binary {level : Level} {op : Lexeme} {before after : List Lexeme} {left right : Tree} :
      Parsed (.level level) before left → op.kind ∈ level.operators →
      Parsed level.operand after right →
      Parsed (.level level) (before ++ op :: after) (.node .binary [left, .lexeme op, right])

/-! ## The shapes of productions -/

/-- The shapes that productions have. -/
inductive Shape : Production → Prop
  | start : Shape ⟨.start, [.rule .expression], none⟩
  | expression : Shape ⟨.expression, [.rule (phraseRule .expression)], none⟩
  | operand (level : Level) :
      Shape ⟨phraseRule (.level level), [.rule (phraseRule level.operand)], none⟩
  | binary {level : Level} {kind : Token.Kind} : kind ∈ level.operators →
      Shape ⟨phraseRule (.level level), [.rule (phraseRule (.level level)), .terminal kind,
        .rule (phraseRule level.operand)], some .binary⟩
  | primary : Shape ⟨phraseRule .unary, [.rule (phraseRule .primary)], none⟩
  | unary {kind : Token.Kind} : kind ∈ unaryOperators →
      Shape ⟨phraseRule .unary, [.terminal kind, .rule (phraseRule .unary)], some .unary⟩
  | literal {kind : Token.Kind} {rule : Rule} : literalNode? kind = some rule →
      Shape ⟨phraseRule .primary, [.terminal kind], some rule⟩
  | grouping : Shape ⟨phraseRule .primary,
      [.terminal .leftParen, .rule .expression, .terminal .rightParen], some .grouping⟩

/-- No production has another shape. -/
theorem shape_of_mem {production : Production} (mem : production ∈ expressions.productions) :
    Shape production := by
  simp only [expressions, List.mem_cons, List.not_mem_nil, or_false] at mem
  rcases mem with rfl | rfl | rfl | rfl | rfl | rfl | rfl | rfl | rfl | rfl | rfl | rfl | rfl | rfl |
    rfl | rfl | rfl | rfl | rfl | rfl | rfl | rfl | rfl
  all_goals
    first
    | exact .start
    | exact .expression
    | exact .operand .equality
    | exact .operand .comparison
    | exact .operand .term
    | exact .operand .factor
    | exact @Shape.binary .equality _ (by decide)
    | exact @Shape.binary .comparison _ (by decide)
    | exact @Shape.binary .term _ (by decide)
    | exact @Shape.binary .factor _ (by decide)
    | exact .primary
    | exact .unary (by decide)
    | exact .literal rfl
    | exact .grouping

/-- There is a production of each shape. -/
theorem mem_of_shape {production : Production} (shape : Shape production) :
    production ∈ expressions.productions := by
  cases shape with
  | start | expression | primary | grouping => decide
  | operand level => cases level <;> decide
  | @binary level kind listed =>
    have each : ∀ kind ∈ level.operators,
        (⟨phraseRule (.level level), [.rule (phraseRule (.level level)), .terminal kind,
          .rule (phraseRule level.operand)], some .binary⟩ : Production) ∈
            expressions.productions := by
      cases level <;> decide
    exact each kind listed
  | @unary kind listed =>
    have each : ∀ kind ∈ unaryOperators,
        (⟨phraseRule .unary, [.terminal kind, .rule (phraseRule .unary)], some .unary⟩ :
          Production) ∈ expressions.productions := by
      decide
    exact each kind listed
  | @literal kind rule named => cases kind <;> cases named <;> decide

/-! ## From layers to productions -/

/-- A phrase that is passed on leaves no node. -/
theorem build_operand (phrase : Phrase) (body : List Symbol) (tree : Tree) :
    expressions.build ⟨phraseRule phrase, body, none⟩ [tree] = tree := by
  rcases phrase with (_ | _ | _ | _) | _ | _ <;> rfl

/-- What is a phrase by layers is one by the productions. -/
theorem Parsed.yields {phrase : Phrase} {lexemes : List Lexeme} {tree : Tree}
    (h : Parsed phrase lexemes tree) :
    expressions.Yields [.rule (phraseRule phrase)] lexemes [tree] := by
  induction h with
  | literal named => exact .single (mem_of_shape (.literal named)) (.lexeme rfl)
  | @grouping _ _ lexemes inner opens _ closes ih =>
    have inside : expressions.Yields [.rule .expression] lexemes [inner] :=
      .single (mem_of_shape .expression) ih
    exact .single (mem_of_shape .grouping)
      ((Yields.lexeme opens).append (inside.append (.lexeme closes)))
  | primary _ ih =>
    have passed := Yields.single (mem_of_shape .primary) ih
    rwa [build_operand] at passed
  | unary listed _ ih =>
    exact .single (mem_of_shape (.unary listed)) ((Yields.lexeme rfl).append ih)
  | @operand level _ _ _ ih =>
    have passed := Yields.single (mem_of_shape (.operand level)) ih
    rwa [build_operand] at passed
  | binary _ listed _ first second =>
    exact .single (mem_of_shape (.binary listed))
      (first.append ((Yields.lexeme rfl).append second))

/-! ## From productions to layers -/

/-- What the layers say of a rule. -/
def Stands : Rule → List Lexeme → Tree → Prop
  | .start, lexemes, tree =>
    ∃ inner, tree = .node .start [inner] ∧ Parsed .expression lexemes inner
  | .expression, lexemes, tree => Parsed .expression lexemes tree
  | .equality, lexemes, tree => Parsed (.level .equality) lexemes tree
  | .comparison, lexemes, tree => Parsed (.level .comparison) lexemes tree
  | .term, lexemes, tree => Parsed (.level .term) lexemes tree
  | .factor, lexemes, tree => Parsed (.level .factor) lexemes tree
  | .unary, lexemes, tree => Parsed .unary lexemes tree
  | .primary, lexemes, tree => Parsed .primary lexemes tree
  | _, _, _ => False

/-- What the layers say of some symbols, one after the other. -/
def Made : List Symbol → List Lexeme → List Tree → Prop
  | [], lexemes, trees => lexemes = [] ∧ trees = []
  | .terminal kind :: symbols, lexemes, trees =>
    ∃ lexeme rest others, lexemes = lexeme :: rest ∧ trees = .lexeme lexeme :: others ∧
      lexeme.kind = kind ∧ Made symbols rest others
  | .rule rule :: symbols, lexemes, trees =>
    ∃ front behind tree others, lexemes = front ++ behind ∧ trees = tree :: others ∧
      Stands rule front tree ∧ Made symbols behind others

theorem stands_phraseRule (phrase : Phrase) : Stands (phraseRule phrase) = Parsed phrase := by
  rcases phrase with (_ | _ | _ | _) | _ | _ <;> rfl

/-- A single symbol that is a rule is made up by all of the lexemes. -/
theorem made_rule {rule : Rule} {lexemes : List Lexeme} {trees : List Tree}
    (h : Made [.rule rule] lexemes trees) : ∃ tree, trees = [tree] ∧ Stands rule lexemes tree := by
  obtain ⟨front, behind, tree, others, rfl, rfl, stands, rfl, rfl⟩ := h
  rw [List.append_nil]
  exact ⟨tree, rfl, stands⟩

/-- What makes up the body of a production makes up its rule. -/
theorem stands_of_made {production : Production} (shape : Shape production)
    {lexemes : List Lexeme} {parts : List Tree} (made : Made production.body lexemes parts) :
    Stands production.head lexemes (expressions.build production parts) := by
  cases shape with
  | start =>
    obtain ⟨inner, rfl, stands⟩ := made_rule made
    exact ⟨inner, rfl, stands⟩
  | expression =>
    obtain ⟨tree, rfl, stands⟩ := made_rule made
    exact stands
  | operand level =>
    obtain ⟨tree, rfl, stands⟩ := made_rule made
    rw [stands_phraseRule] at stands
    rw [build_operand, stands_phraseRule]
    exact .operand stands
  | @binary level kind listed =>
    obtain ⟨before, _, left, _, rfl, rfl, first, op, _, _, rfl, rfl, rfl, rest⟩ := made
    obtain ⟨right, rfl, second⟩ := made_rule rest
    rw [stands_phraseRule] at first second ⊢
    exact .binary first listed second
  | primary =>
    obtain ⟨tree, rfl, stands⟩ := made_rule made
    exact .primary stands
  | unary listed =>
    obtain ⟨op, _, _, rfl, rfl, rfl, rest⟩ := made
    obtain ⟨operand, rfl, stands⟩ := made_rule rest
    exact .unary listed stands
  | literal named =>
    obtain ⟨lexeme, _, _, rfl, rfl, rfl, rfl, rfl⟩ := made
    exact .literal named
  | grouping =>
    obtain ⟨opening, _, _, rfl, rfl, opens, inside, _, inner, _, rfl, rfl, stands, closing, _, _,
      rfl, rfl, closes, rfl, rfl⟩ := made
    exact .grouping opens stands closes

/-- What makes up some symbols by the productions makes them up by layers. -/
theorem made_of_yields {symbols : List Symbol} {lexemes : List Lexeme} {trees : List Tree}
    (h : expressions.Yields symbols lexemes trees) : Made symbols lexemes trees := by
  induction h with
  | nil => exact ⟨rfl, rfl⟩
  | terminal _ ih => exact ⟨_, _, _, rfl, rfl, rfl, ih⟩
  | rule mem _ _ parts ih =>
    exact ⟨_, _, _, _, rfl, rfl, stands_of_made (shape_of_mem mem) parts, ih⟩

/-- A sentence is an expression, and its tree has a node around that of the expression. -/
theorem sentence_iff {lexemes : List Lexeme} {tree : Tree} :
    expressions.Sentence lexemes tree ↔
      ∃ inner, tree = .node .start [inner] ∧ Parsed .expression lexemes inner := by
  constructor
  · intro sentence
    obtain ⟨own, same, stands⟩ := made_rule (made_of_yields sentence)
    cases same
    exact stands
  · rintro ⟨inner, rfl, parsed⟩
    exact .single (mem_of_shape .start)
      (Yields.single (mem_of_shape .expression) parsed.yields)

end Abacus.Grammar
