import Abacus.Expr
import Abacus.Grammar.Engine
import Abacus.Grammar.Scan
import Abacus.Operator

/-!
# Shifting lexemes

An engine for the grammar of the language. The lexemes of a source are shifted one by one onto a
stack of phrases that still want an operand. Once an operand is complete, the next operator decides
which of them it completes: unary ones always, binary ones if they bind at least as tightly. Which
terminals are operators, and of which level, is looked up in the productions.
-/

namespace Abacus.Grammar

/-! ## Productions by their terminals -/

/-- Whether a terminal stands in front of an operand. -/
def isPrefix (kind : Token.Kind) : Bool :=
  expressions.productions.any fun production =>
    production.body = [.terminal kind, .rule .unary]

/-- The name of the node of a terminal that is an operand by itself. -/
def literalRule? (kind : Token.Kind) : Option Rule :=
  expressions.productions.findSome? fun production =>
    if production.body = [.terminal kind] then production.alias? else none

/-- The rule of a level. -/
def levelRule : Level → Rule
  | .equality => .equality
  | .comparison => .comparison
  | .term => .term
  | .factor => .factor

/-- The level with a production that has a terminal between operands. -/
def levelOf? (kind : Token.Kind) : Option Level :=
  [Level.equality, .comparison, .term, .factor].find? fun level =>
    expressions.productions.any fun production =>
      production.head = levelRule level && production.body.contains (.terminal kind)

/-! ## Shifting -/

/-- A phrase that wants an operand at its right end. -/
inductive Frame where
  | opening (paren : Lexeme)
  | unary (op : Lexeme)
  | binary (left : Tree) (op : Lexeme) (level : Level)
  deriving Repr

/-- How far a source has been shifted: an operand is expected, or one is complete. The innermost
frame comes first. -/
inductive State where
  | expecting (frames : List Frame)
  | complete (tree : Tree) (frames : List Frame)
  deriving Repr

/-- What is expected next. -/
def State.expected : State → Expected
  | .expecting _ => .operand
  | .complete _ _ => .operator

/-- Completes the phrases that bind their operand at least as tightly as a level. -/
def settle (level : Level) : Tree → List Frame → Tree × List Frame
  | tree, .unary op :: frames => settle level (.node .unary [.lexeme op, tree]) frames
  | tree, .binary left op own :: frames =>
    if level.rank ≤ own.rank then settle level (.node .binary [left, .lexeme op, tree]) frames
    else (tree, .binary left op own :: frames)
  | tree, frames => (tree, frames)

/-- Shifts a lexeme, unless it may not stand here. -/
def State.shift : State → Lexeme → Except Lexeme State
  | .expecting frames, lexeme =>
    if isPrefix lexeme.kind then .ok (.expecting (.unary lexeme :: frames))
    else if lexeme.kind = .leftParen then .ok (.expecting (.opening lexeme :: frames))
    else
      match literalRule? lexeme.kind with
      | some rule => .ok (.complete (.node rule [.lexeme lexeme]) frames)
      | none => .error lexeme
  | .complete tree frames, lexeme =>
    if lexeme.kind = .rightParen then
      match settle .equality tree frames with
      | (inner, .opening paren :: outer) =>
        .ok (.complete (.node .grouping [.lexeme paren, inner, .lexeme lexeme]) outer)
      | _ => .error lexeme
    else
      match levelOf? lexeme.kind with
      | some level =>
        let (left, outer) := settle level tree frames
        .ok (.expecting (.binary left lexeme level :: outer))
      | none => .error lexeme

/-- The tree of a source that has ended, if nothing is left open. -/
def State.finish? : State → Option Tree
  | .expecting _ => none
  | .complete tree frames =>
    match settle .equality tree frames with
    | (whole, []) => some (.node .start [whole])
    | _ => none

/-! ## Sources -/

/-- What comes of lexemes that have been shifted, by what ends them. -/
def State.outcome (state : State) (before : List Lexeme) : Ending → Except Mismatch Tree
  | .misplaced lexeme => .error (.misplaced lexeme)
  | .unknown c place => .error (.unknown c place)
  | .finished =>
    match state.finish? with
    | some tree => .ok tree
    | none => .error (.ended (Engine.lastPlace before))

/-- What comes of lexemes that were scanned, and of what ends them. -/
def parseLexemes (scanned : List Lexeme × Ending) : Except Mismatch Tree :=
  match scanned.1.foldlM State.shift (.expecting []) with
  | .error lexeme => .error (.misplaced lexeme)
  | .ok state => state.outcome scanned.1 scanned.2

/-- The parse tree of a source text. -/
def parseTree (source : String) : Except Mismatch Tree :=
  parseLexemes (scan .operand {} source.toList)

/-- How many levels of a tree can be transformed. Each takes two calls; the callbacks take some. -/
def transformLevels : Nat :=
  (callLimit - 40) / 2

/-- The engine that shifts lexemes. -/
def Engine.shifting : Engine where
  admits before kind := (Expected.after before).admits kind
  parse := parseTree
  transform callback := Tree.walk callback transformLevels
  reach := transformLevels
  limit := transformLevels

end Abacus.Grammar
