import Abacus.Grammar.Lexeme

/-!
# Grammars as data

A grammar is a list of productions over terminals and rules. It says which lexemes make up a
sentence, and which tree a sentence has. A production may give its nodes a name of its own; without
one, a rule may leave no node at all around a single part. The grammar of the language,
`Grammar.expressions`, has a rule for each level of operators, and each binary operator stands in a
production of its own level.

What is said of sentences here is said of any grammar.

Result: `Yields.append`: what makes up some symbols and what makes up others make up all of them.
-/

namespace Abacus

namespace Grammar

/-! ## Rules -/

/-- The names of rules, and of the nodes of productions with a name of their own. -/
inductive Rule where
  | start | expression | equality | comparison | term | factor | unary | primary
  | binary | grouping | integer | boolean | string
  deriving DecidableEq, Repr

/-- How a rule is called. -/
def Rule.name : Rule → String
  | .start => "start"
  | .expression => "expression"
  | .equality => "equality"
  | .comparison => "comparison"
  | .term => "term"
  | .factor => "factor"
  | .unary => "unary"
  | .primary => "primary"
  | .binary => "binary"
  | .grouping => "grouping"
  | .integer => "integer"
  | .boolean => "boolean"
  | .string => "string"

/-- A part of a production. -/
inductive Symbol where
  | terminal (kind : Token.Kind)
  | rule (rule : Rule)
  deriving DecidableEq, Repr

/-- One way to make up a rule. -/
structure Production where
  head : Rule
  body : List Symbol
  /-- The name of the nodes of this production, if it is not that of the rule. -/
  alias? : Option Rule
  deriving DecidableEq, Repr

/-- A tree of lexemes. -/
inductive Tree where
  | lexeme (own : Lexeme)
  | node (rule : Rule) (parts : List Tree)
  deriving Repr

end Grammar

/-- A grammar over the kinds of tokens. -/
structure Grammar where
  /-- The rule of sentences. -/
  start : Grammar.Rule
  productions : List Grammar.Production
  /-- Whether a rule leaves no node around a single part. -/
  transparent : Grammar.Rule → Bool
  /-- The terminals, in the order in which they are tried. -/
  terminals : List Grammar.Terminal
  /-- The characters that may stand between lexemes. -/
  ignores : Char → Bool

namespace Grammar

variable (grammar : Grammar)

/-! ## Sentences -/

/-- What a production makes of the trees of its parts. -/
def build (production : Production) (parts : List Tree) : Tree :=
  match production.alias?, parts with
  | some rule, _ => .node rule parts
  | none, [part] =>
    if grammar.transparent production.head then part else .node production.head [part]
  | none, _ => .node production.head parts

/-- `grammar.Yields symbols lexemes trees`: one after the other, the symbols are made up by the
lexemes, and these are their trees. -/
inductive Yields : List Symbol → List Lexeme → List Tree → Prop
  | nil : Yields [] [] []
  /-- A terminal is made up by a lexeme of its kind. -/
  | terminal {lexeme : Lexeme} {symbols : List Symbol} {lexemes : List Lexeme}
      {trees : List Tree} :
      Yields symbols lexemes trees →
      Yields (.terminal lexeme.kind :: symbols) (lexeme :: lexemes) (.lexeme lexeme :: trees)
  /-- A rule is made up by what makes up the body of one of its productions. -/
  | rule {production : Production} {symbols : List Symbol} {front behind : List Lexeme}
      {parts trees : List Tree} :
      production ∈ grammar.productions → Yields production.body front parts →
      Yields symbols behind trees →
      Yields (.rule production.head :: symbols) (front ++ behind)
        (grammar.build production parts :: trees)

namespace Yields

variable {grammar}

/-- What makes up some symbols and what makes up others make up all of them. -/
theorem append {symbols others : List Symbol} {front behind : List Lexeme}
    {trees more : List Tree} (first : grammar.Yields symbols front trees)
    (second : grammar.Yields others behind more) :
    grammar.Yields (symbols ++ others) (front ++ behind) (trees ++ more) := by
  induction first with
  | nil => exact second
  | terminal _ ih => exact .terminal ih
  | rule mem parts _ _ ih =>
    rw [List.append_assoc]
    exact .rule mem parts ih

/-- What makes up the body of a production makes up its rule. -/
theorem single {production : Production} {lexemes : List Lexeme} {parts : List Tree}
    (mem : production ∈ grammar.productions)
    (body : grammar.Yields production.body lexemes parts) :
    grammar.Yields [.rule production.head] lexemes [grammar.build production parts] := by
  have whole := Yields.rule mem body .nil
  rwa [List.append_nil] at whole

/-- A lexeme makes up a terminal of its kind. -/
theorem lexeme {lexeme : Lexeme} {kind : Token.Kind} (own : lexeme.kind = kind) :
    grammar.Yields [.terminal kind] [lexeme] [.lexeme lexeme] :=
  own ▸ .terminal .nil

end Yields

/-- Whether lexemes are a sentence with some tree. -/
def Sentence (lexemes : List Lexeme) (tree : Tree) : Prop :=
  grammar.Yields [.rule grammar.start] lexemes [tree]

/-- Whether some sentence starts with these lexemes. -/
def Viable (lexemes : List Lexeme) : Prop :=
  ∃ more tree, grammar.Sentence (lexemes ++ more) tree

/-- Whether, somewhere in a sentence, a terminal stands right behind another one, or in front of
everything. -/
def Follows (last? : Option Token.Kind) (kind : Token.Kind) : Prop :=
  ∃ before next after tree, grammar.Sentence (before ++ next :: after) tree ∧
    next.kind = kind ∧ before.getLast?.map Lexeme.kind = last?

end Grammar

/-! ## The grammar of the language -/

/-- The grammar of the language. -/
def Grammar.expressions : Grammar where
  start := .start
  productions :=
    [⟨.start, [.rule .expression], none⟩,
      ⟨.expression, [.rule .equality], none⟩,
      ⟨.equality, [.rule .comparison], none⟩,
      ⟨.equality, [.rule .equality, .terminal .equals, .rule .comparison], some .binary⟩,
      ⟨.equality, [.rule .equality, .terminal .bangEquals, .rule .comparison], some .binary⟩,
      ⟨.comparison, [.rule .term], none⟩,
      ⟨.comparison, [.rule .comparison, .terminal .greater, .rule .term], some .binary⟩,
      ⟨.comparison, [.rule .comparison, .terminal .greaterEquals, .rule .term], some .binary⟩,
      ⟨.comparison, [.rule .comparison, .terminal .smaller, .rule .term], some .binary⟩,
      ⟨.comparison, [.rule .comparison, .terminal .smallerEquals, .rule .term], some .binary⟩,
      ⟨.term, [.rule .factor], none⟩,
      ⟨.term, [.rule .term, .terminal .minus, .rule .factor], some .binary⟩,
      ⟨.term, [.rule .term, .terminal .plus, .rule .factor], some .binary⟩,
      ⟨.factor, [.rule .unary], none⟩,
      ⟨.factor, [.rule .factor, .terminal .star, .rule .unary], some .binary⟩,
      ⟨.factor, [.rule .factor, .terminal .slash, .rule .unary], some .binary⟩,
      ⟨.unary, [.terminal .bang, .rule .unary], some .unary⟩,
      ⟨.unary, [.terminal .minus, .rule .unary], some .unary⟩,
      ⟨.unary, [.rule .primary], none⟩,
      ⟨.primary, [.terminal .integerLiteral], some .integer⟩,
      ⟨.primary, [.terminal .booleanLiteral], some .boolean⟩,
      ⟨.primary, [.terminal .stringLiteral], some .string⟩,
      ⟨.primary, [.terminal .leftParen, .rule .expression, .terminal .rightParen],
        some .grouping⟩]
  transparent := (· ≠ .start)
  terminals := Terminal.all
  ignores := isSpace

end Abacus
