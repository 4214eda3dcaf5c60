import Abacus.Grammar.Production

/-!
# Engines that parse by a grammar

Trees of a grammar are built, and worked off, by an engine that is made for any grammar. What such
an engine is relied on for is `Engine.Contract`. Its lexer looks for those terminals that may come
next, and perhaps for some that may stand behind the last one in other sentences; where it finds
none of them, it tries all, to say what stands there instead. Its parser takes lexemes as long as
some sentence starts with them. Its transformer calls back for each node, the parts before the whole
and from left to right. It calls itself for each level of a tree, so trees may be too deep for it.

Results:
1. `Tree.walk_cases`: with a bound for the levels, a fold of a tree is the same fold or given up.
2. `Tree.walk_of_depth_le` and `Tree.depth_le_of_walk`: it is the same within the bound, and has no
   result beyond it.
-/

namespace Abacus.Grammar

/-! ## Parsing -/

/-- Why a source text has no parse tree. -/
inductive Mismatch where
  /-- A terminal that may not stand at its place. -/
  | misplaced (lexeme : Lexeme)
  /-- The source ends too early, after a lexeme at this place. -/
  | ended (place : Place)
  /-- A character that starts no terminal. -/
  | unknown (c : Char) (place : Place)
  deriving DecidableEq, Repr

/-! ## Transforming -/

/-- Why a transformation has no result. -/
inductive Interruption (ε : Type) where
  /-- A callback failed at a node. -/
  | fault (rule : Rule) (fault : ε)
  /-- The tree is too deep. -/
  | exhausted
  deriving DecidableEq, Repr

/-- What is called back at a node. Parts are lexemes or have been transformed before. -/
abbrev Callback (ε α : Type) := Rule → List (Lexeme ⊕ α) → Except ε α

namespace Tree

variable {ε α : Type} (callback : Callback ε α)

/-- The outcome of a node whose parts have been transformed. -/
def foldNode (rule : Rule) :
    Except (Interruption ε) (List (Lexeme ⊕ α)) → Except (Interruption ε) (Lexeme ⊕ α)
  | .error stop => .error stop
  | .ok parts =>
    match callback rule parts with
    | .error fault => .error (.fault rule fault)
    | .ok own => .ok (.inr own)

/-- The outcomes of the parts of a node, up to the first failure. -/
def foldCons (first : Except (Interruption ε) (Lexeme ⊕ α))
    (rest : Except (Interruption ε) (List (Lexeme ⊕ α))) :
    Except (Interruption ε) (List (Lexeme ⊕ α)) :=
  match first with
  | .error stop => .error stop
  | .ok part => rest.map (part :: ·)

mutual

/-- Calls back for the nodes of a tree, from left to right and the parts before the whole. -/
def fold : Tree → Except (Interruption ε) (Lexeme ⊕ α)
  | .lexeme own => .ok (.inl own)
  | .node rule parts => foldNode callback rule (foldParts parts)

/-- Calls back for the nodes of some trees. -/
def foldParts : List Tree → Except (Interruption ε) (List (Lexeme ⊕ α))
  | [] => .ok []
  | part :: parts => foldCons (fold part) (foldParts parts)

end

mutual

/-- Calls back for the nodes of a tree, but goes no further down than some levels. -/
def walk : Nat → Tree → Except (Interruption ε) (Lexeme ⊕ α)
  | _, .lexeme own => .ok (.inl own)
  | 0, .node _ _ => .error .exhausted
  | levels + 1, .node rule parts => foldNode callback rule (walkParts levels parts)

/-- Calls back for the nodes of some trees, but goes no further down than some levels. -/
def walkParts : Nat → List Tree → Except (Interruption ε) (List (Lexeme ⊕ α))
  | _, [] => .ok []
  | levels, part :: parts => foldCons (walk levels part) (walkParts levels parts)

end

mutual

/-- How many nodes are above each other in a tree. -/
def depth : Tree → Nat
  | .lexeme _ => 0
  | .node _ parts => depthParts parts + 1

/-- How many nodes are above each other in some trees. -/
def depthParts : List Tree → Nat
  | [] => 0
  | part :: parts => max part.depth (depthParts parts)

end

/-! With a bound for the levels, a fold is the same or given up. -/

variable {callback}

/-- A node has a result only if its parts have. -/
theorem parts_of_foldNode {rule : Rule}
    {parts : Except (Interruption ε) (List (Lexeme ⊕ α))} {result : Lexeme ⊕ α}
    (h : foldNode callback rule parts = .ok result) : ∃ own, parts = .ok own := by
  cases parts with
  | error stop => cases h
  | ok own => exact ⟨own, rfl⟩

/-- Some parts have results only if the first has one and the others have. -/
theorem parts_of_foldCons {first : Except (Interruption ε) (Lexeme ⊕ α)}
    {rest : Except (Interruption ε) (List (Lexeme ⊕ α))} {results : List (Lexeme ⊕ α)}
    (h : foldCons first rest = .ok results) :
    (∃ own, first = .ok own) ∧ ∃ others, rest = .ok others := by
  cases first with
  | error stop => cases h
  | ok own =>
    cases rest with
    | error stop => cases h
    | ok others => exact ⟨⟨own, rfl⟩, others, rfl⟩

mutual

/-- A fold with a bound is given up, or is the fold of the whole tree. -/
theorem walk_cases (levels : Nat) (tree : Tree) :
    walk callback levels tree = .error .exhausted ∨
      walk callback levels tree = fold callback tree := by
  cases tree with
  | lexeme own => exact .inr rfl
  | node rule parts =>
    cases levels with
    | zero => exact .inl rfl
    | succ levels =>
      rw [walk, fold]
      rcases walkParts_cases levels parts with stop | same
      · rw [stop]
        exact .inl rfl
      · rw [same]
        exact .inr rfl

theorem walkParts_cases (levels : Nat) (parts : List Tree) :
    walkParts callback levels parts = .error .exhausted ∨
      walkParts callback levels parts = foldParts callback parts := by
  cases parts with
  | nil => exact .inr rfl
  | cons part parts =>
    rw [walkParts, foldParts]
    rcases walk_cases levels part with stop | same
    · rw [stop]
      exact .inl rfl
    · rw [same]
      cases fold callback part with
      | error stop => exact .inr rfl
      | ok own =>
        rcases walkParts_cases levels parts with stop | same
        · rw [stop]
          exact .inl rfl
        · rw [same]
          exact .inr rfl

end

mutual

/-- A tree within the bound is folded. -/
theorem walk_of_depth_le {levels : Nat} (tree : Tree) (shallow : tree.depth ≤ levels) :
    walk callback levels tree = fold callback tree := by
  cases tree with
  | lexeme own => rfl
  | node rule parts =>
    cases levels with
    | zero => cases shallow
    | succ levels => rw [walk, fold, walkParts_of_depth_le parts (Nat.le_of_succ_le_succ shallow)]

theorem walkParts_of_depth_le {levels : Nat} (parts : List Tree)
    (shallow : depthParts parts ≤ levels) :
    walkParts callback levels parts = foldParts callback parts := by
  cases parts with
  | nil => rfl
  | cons part parts =>
    obtain ⟨first, rest⟩ := Nat.max_le.mp shallow
    rw [walkParts, foldParts, walk_of_depth_le part first, walkParts_of_depth_le parts rest]

end

mutual

/-- A tree beyond the bound has no result. -/
theorem depth_le_of_walk {levels : Nat} (tree : Tree) {result : Lexeme ⊕ α}
    (h : walk callback levels tree = .ok result) : tree.depth ≤ levels := by
  cases tree with
  | lexeme own => exact Nat.zero_le _
  | node rule parts =>
    cases levels with
    | zero => cases h
    | succ levels =>
      obtain ⟨own, done⟩ := parts_of_foldNode h
      exact Nat.succ_le_succ (depthParts_le_of_walk parts done)

theorem depthParts_le_of_walk {levels : Nat} (parts : List Tree)
    {results : List (Lexeme ⊕ α)} (h : walkParts callback levels parts = .ok results) :
    depthParts parts ≤ levels := by
  cases parts with
  | nil => exact Nat.zero_le _
  | cons part parts =>
    obtain ⟨⟨own, first⟩, others, rest⟩ := parts_of_foldCons h
    exact Nat.max_le.mpr ⟨depth_le_of_walk part first, depthParts_le_of_walk parts rest⟩

end

end Tree

/-! ## Engines -/

/-- An engine that has been made for a grammar. -/
structure Engine where
  /-- The terminals that the lexer looks for behind some others. -/
  admits : List Token.Kind → Token.Kind → Bool
  parse : String → Except Mismatch Tree
  transform : {ε α : Type} → Callback ε α → Tree → Except (Interruption ε) (Lexeme ⊕ α)
  /-- Trees of this depth can be transformed. -/
  reach : Nat
  /-- Deeper trees cannot be transformed. -/
  limit : Nat

namespace Engine

variable (engine : Engine) (grammar : Grammar)

/-- The terminals that the lexer looks for behind some lexemes. -/
def sought (before : List Lexeme) : List Terminal :=
  grammar.terminals.filter fun terminal => engine.admits (before.map Lexeme.kind) terminal.kind

/-- The place where the next lexeme may start. -/
def next (place : Place) (input : List Char) : Place :=
  place.advance (input.takeWhile grammar.ignores)

/-- The place where an input that ends too early is at fault. -/
def lastPlace (before : List Lexeme) : Place :=
  (before.getLast?.map Lexeme.place).getD {}

/-- `engine.Course grammar before place input outcome`: what comes of an input that starts at a
place when some lexemes before it have been taken. -/
inductive Course : List Lexeme → Place → List Char → Except Mismatch Tree → Prop
  /-- The input is at its end, and the lexemes are a sentence. -/
  | accepted {before : List Lexeme} {place : Place} {input : List Char} {tree : Tree} :
      input.dropWhile grammar.ignores = [] → grammar.Sentence before tree →
      Course before place input (.ok tree)
  /-- The input is at its end too early. -/
  | ended {before : List Lexeme} {place : Place} {input : List Char} :
      input.dropWhile grammar.ignores = [] → (∀ tree, ¬ grammar.Sentence before tree) →
      Course before place input (.error (.ended (lastPlace before)))
  /-- A lexeme that was looked for is taken. -/
  | taken {before : List Lexeme} {place : Place} {input : List Char} {c : Char}
      {tail text rest : List Char} {kind : Token.Kind} {outcome : Except Mismatch Tree} :
      input.dropWhile grammar.ignores = c :: tail →
      Terminal.first? (engine.sought grammar before) (c :: tail) = some (kind, text, rest) →
      grammar.Viable (before ++ [⟨kind, String.ofList text, next grammar place input⟩]) →
      Course (before ++ [⟨kind, String.ofList text, next grammar place input⟩])
        ((next grammar place input).advance text) rest outcome →
      Course before place input outcome
  /-- A lexeme that was looked for cannot be taken. -/
  | refused {before : List Lexeme} {place : Place} {input : List Char} {c : Char}
      {tail text rest : List Char} {kind : Token.Kind} :
      input.dropWhile grammar.ignores = c :: tail →
      Terminal.first? (engine.sought grammar before) (c :: tail) = some (kind, text, rest) →
      ¬ grammar.Viable (before ++ [⟨kind, String.ofList text, next grammar place input⟩]) →
      Course before place input
        (.error (.misplaced ⟨kind, String.ofList text, next grammar place input⟩))
  /-- None of the terminals that were looked for is there, but some other one is. -/
  | unsought {before : List Lexeme} {place : Place} {input : List Char} {c : Char}
      {tail text rest : List Char} {kind : Token.Kind} :
      input.dropWhile grammar.ignores = c :: tail →
      Terminal.first? (engine.sought grammar before) (c :: tail) = none →
      Terminal.first? grammar.terminals (c :: tail) = some (kind, text, rest) →
      Course before place input
        (.error (.misplaced ⟨kind, String.ofList text, next grammar place input⟩))
  /-- No terminal is there. -/
  | unknown {before : List Lexeme} {place : Place} {input : List Char} {c : Char}
      {tail : List Char} :
      input.dropWhile grammar.ignores = c :: tail →
      Terminal.first? (engine.sought grammar before) (c :: tail) = none →
      Terminal.first? grammar.terminals (c :: tail) = none →
      Course before place input (.error (.unknown c (next grammar place input)))

/-- What an engine that has been made for a grammar is relied on for. -/
structure Contract : Prop where
  /-- The lexer looks for all terminals that can be taken. -/
  admits_of_viable : ∀ before next, grammar.Viable (before ++ [next]) →
    engine.admits (before.map Lexeme.kind) next.kind = true
  /-- It looks for no others than stand behind the last one in some sentence. -/
  follows_of_admits : ∀ before kind, grammar.Viable before →
    engine.admits (before.map Lexeme.kind) kind = true →
    grammar.Follows (before.getLast?.map Lexeme.kind) kind
  /-- The parser takes lexeme after lexeme, as long as some sentence starts with them. -/
  course : ∀ source, engine.Course grammar [] {} source.toList (engine.parse source)
  /-- A transformation is the fold of the tree, or it is given up. -/
  transform_cases : ∀ {ε α : Type} (callback : Callback ε α) tree,
    engine.transform callback tree = .error .exhausted ∨
      engine.transform callback tree = tree.fold callback
  /-- It is not given up for trees within reach. -/
  transform_of_depth_le : ∀ {ε α : Type} (callback : Callback ε α) tree,
    tree.depth ≤ engine.reach → engine.transform callback tree = tree.fold callback
  /-- Beyond the limit it has no result. -/
  transform_ne_ok : ∀ {ε α : Type} (callback : Callback ε α) tree result,
    engine.limit < tree.depth → engine.transform callback tree ≠ .ok result

end Engine

end Abacus.Grammar
