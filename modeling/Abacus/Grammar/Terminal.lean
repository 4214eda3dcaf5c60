import Abacus.Token

/-!
# Terminals of the grammar

The language is also given by a grammar of its own. The terminals of a grammar are kinds of tokens,
each with a pattern for its texts. They are tried one after another, so what is found depends on
which of them are looked for: an exclamation mark before an equals sign is one operator with it
where both are, and a negation where only that one is.

Results:
1. `Pattern.match?_append`: what matched and what follows it are the input.
2. `Terminal.first?_length`: a terminal uses up at least one character.
-/

namespace Abacus.Grammar

/-! ## Terminals -/

/-- The shape of the texts of a terminal. -/
inductive Pattern where
  /-- One text, of at least one character. -/
  | exact (head : Char) (tail : List Char)
  /-- A run of the ten digits of ASCII. -/
  | digits
  /-- A quote, any other characters, and a quote. -/
  | quoted
  deriving DecidableEq, Repr

/-- The part of an input that a pattern matches, and what follows it. -/
def Pattern.match? : Pattern → List Char → Option (List Char × List Char)
  | .exact head tail, input =>
    if (head :: tail).isPrefixOf input then some (head :: tail, input.drop (tail.length + 1))
    else none
  | .digits, input =>
    match input.takeWhile Char.isDigit with
    | [] => none
    | run => some (run, input.dropWhile Char.isDigit)
  | .quoted, '"' :: input =>
    match input.dropWhile (· != '"') with
    | [] => none
    | quote :: rest => some ('"' :: input.takeWhile (· != '"') ++ [quote], rest)
  | .quoted, _ => none

/-- A kind of token and the texts it has in the grammar. -/
structure Terminal where
  kind : Token.Kind
  pattern : Pattern
  deriving DecidableEq, Repr

namespace Terminal

/-- All terminals, the longer operators first. -/
def all : List Terminal :=
  [⟨.equals, .exact '=' ['=']⟩, ⟨.bangEquals, .exact '!' ['=']⟩,
    ⟨.greaterEquals, .exact '>' ['=']⟩, ⟨.smallerEquals, .exact '<' ['=']⟩,
    ⟨.greater, .exact '>' []⟩, ⟨.smaller, .exact '<' []⟩, ⟨.minus, .exact '-' []⟩,
    ⟨.plus, .exact '+' []⟩, ⟨.star, .exact '*' []⟩, ⟨.slash, .exact '/' []⟩,
    ⟨.bang, .exact '!' []⟩, ⟨.leftParen, .exact '(' []⟩, ⟨.rightParen, .exact ')' []⟩,
    ⟨.integerLiteral, .digits⟩, ⟨.booleanLiteral, .exact 't' ['r', 'u', 'e']⟩,
    ⟨.booleanLiteral, .exact 'f' ['a', 'l', 's', 'e']⟩, ⟨.stringLiteral, .quoted⟩]

/-- The first of some terminals that an input starts with: its kind, its text and what follows. -/
def first? (terminals : List Terminal) (input : List Char) :
    Option (Token.Kind × List Char × List Char) :=
  terminals.findSome? fun terminal =>
    (terminal.pattern.match? input).map fun (text, rest) => (terminal.kind, text, rest)

end Terminal

/-! ## What a terminal uses up -/

/-- What matched and what follows it are the input. -/
theorem Pattern.match?_append {pattern : Pattern} {input text rest : List Char}
    (h : pattern.match? input = some (text, rest)) : text ++ rest = input := by
  unfold match? at h
  split at h
  · split at h
    · rename_i start
      simp only [Option.some.injEq, Prod.mk.injEq] at h
      obtain ⟨after, rfl⟩ := List.isPrefixOf_iff_prefix.mp start
      obtain ⟨rfl, rfl⟩ := h
      simp
    · simp at h
  · split at h
    · simp at h
    · simp only [Option.some.injEq, Prod.mk.injEq] at h
      obtain ⟨rfl, rfl⟩ := h
      exact List.takeWhile_append_dropWhile
  · rename_i input
    split at h
    · simp at h
    · rename_i quote after found
      simp only [Option.some.injEq, Prod.mk.injEq] at h
      obtain ⟨rfl, rfl⟩ := h
      have parts := List.takeWhile_append_dropWhile (p := (· != '"')) (l := input)
      rw [found] at parts
      simp [parts]
  · simp at h

/-- No pattern matches an empty text. -/
theorem Pattern.match?_ne_nil {pattern : Pattern} {input text rest : List Char}
    (h : pattern.match? input = some (text, rest)) : text ≠ [] := by
  unfold match? at h
  split at h
  · split at h <;> simp_all
    rw [← h.1]
    simp
  · split at h
    · simp at h
    · rename_i nonempty
      simp only [Option.some.injEq, Prod.mk.injEq] at h
      rw [← h.1]
      simpa using nonempty
  · split at h
    · simp at h
    · simp only [Option.some.injEq, Prod.mk.injEq] at h
      rw [← h.1]
      simp
  · simp at h

/-- A terminal uses up at least one character. -/
theorem Terminal.first?_length {terminals : List Terminal} {input text rest : List Char}
    {kind : Token.Kind} (h : Terminal.first? terminals input = some (kind, text, rest)) :
    rest.length < input.length := by
  obtain ⟨terminal, _, found⟩ := List.exists_of_findSome?_eq_some h
  obtain ⟨⟨matched, after⟩, fits, eq⟩ := Option.map_eq_some_iff.mp found
  simp only [Prod.mk.injEq] at eq
  obtain ⟨_, rfl, rfl⟩ := eq
  have whole := congrArg List.length (Pattern.match?_append fits)
  have some_text := List.length_pos_iff.mpr (Pattern.match?_ne_nil fits)
  simp only [List.length_append] at whole
  omega

end Abacus.Grammar
