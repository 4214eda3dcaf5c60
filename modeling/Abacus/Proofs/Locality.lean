import Abacus.Proofs.Partition
import Abacus.Proofs.Renaming

/-!
# Sources within sources

A text in which all string literals are closed is cut into the same tokens wherever it stands, if
what follows would not go on with its last token. Only the lines of the tokens tell what stands in
front. Between parentheses nothing goes on with any token, and nothing inside of them is read
together with what is outside, so sources put together in parentheses are read as their trees put
together.

Results:
1. `Cursor.drain_below`: tokens on lines further down.
2. `Cut.drain_append`: a text in front of another one.
3. `parse_groups`: two sources in parentheses around an operator.
-/

namespace Abacus

open Text

/-! ## Lines further down -/

/-- A token on a line further down. -/
def Token.below (lines : Nat) (token : Token) : Token :=
  { token with line := token.line + lines }

/-- A cursor on a line further down. -/
def Cursor.below (lines : Nat) (cursor : Cursor) : Cursor :=
  { cursor with line := cursor.line + lines }

namespace Cursor

theorem skipBlanks_below (lines : Nat) (cursor : Cursor) :
    (cursor.below lines).skipBlanks = cursor.skipBlanks.below lines := by
  simp only [skipBlanks, below, Nat.add_right_comm]

theorem next?_below (lines : Nat) (cursor : Cursor) :
    (cursor.below lines).next? =
      cursor.next?.map fun (token, after) => (token.below lines, after.below lines) := by
  rw [next?_eq, next?_eq, skipBlanks_below]
  match cursor.skipBlanks with
  | ⟨[], _⟩ => rfl
  | ⟨head :: tail, line⟩ => simp [below, Token.below, Nat.add_right_comm]

/-- Further down in a source, the same tokens are taken, on lines further down. -/
theorem drain_below (lines : Nat) (cursor : Cursor) :
    (cursor.below lines).drain.1 = cursor.drain.1.map (Token.below lines) := by
  fun_induction drain cursor with
  | case1 cursor none =>
    have none' := next?_below lines cursor
    rw [none] at none'
    rw [drain_of_none none']
    rfl
  | case2 cursor token after next tokens last eq ih =>
    have next' := next?_below lines cursor
    rw [next] at next'
    rw [drain_of_next? next', ih, eq]
    rfl

end Cursor

/-! ## Texts in front of others -/

/-- A text that closes its string literals is cut as it is by itself, if nothing that follows would
go on with a token. -/
theorem Cut.drain_append {line : Nat} {source last rest : List Char} {slices : List Slice}
    (cut : Cut line source slices last) (closed : endsInside false source = false)
    (meets : ∀ c ∈ rest.head?, ∀ kind : Token.Kind, kind.extendedBy c = false) :
    (⟨source ++ rest, line⟩ : Cursor).drain.1 =
      slices.map Slice.token ++ (⟨rest, line + lineEnds source⟩ : Cursor).drain.1 := by
  induction cut with
  | blank blanks =>
    rw [Cursor.drain_blanks blanks]
    rfl
  | @token line gap behind last token slices blanks spelled own stops _ ih =>
    have outside := @endsInside_append gap (token.text ++ behind)
      (fun c mem => isQuote_of_isBlank (blanks c mem)) false
    rw [outside, Token.text, endsInside_text spelled] at closed
    have apart : ∀ c ∈ (behind ++ rest).head?, token.kind.extendedBy c = false := by
      cases behind with
      | nil => exact fun c mem => meets c mem token.kind
      | cons c more => exact stops
    have lines : lineEnds token.text = lineEnds token.lexeme.toList :=
      Token.Kind.lineEnds_text token.kind token.lexeme.toList
    have cutOff := Cursor.drain_text spelled apart (line + lineEnds gap)
    rw [← lines, ih closed, String.ofList_toList, Int.natCast_add, ← own] at cutOff
    rw [List.append_assoc, List.append_assoc, Cursor.drain_blanks blanks]
    refine cutOff.trans ?_
    simp only [lineEnds_append, List.map_cons, List.cons_append, Nat.add_assoc]
  | @unclosed line gap token blanks spelled own kind =>
    have outside := @endsInside_append gap ('"' :: token.lexeme.toList)
      (fun c mem => isQuote_of_isBlank (blanks c mem)) false
    rw [Token.Spelled, kind] at spelled
    rw [outside, endsInside_open spelled] at closed
    cases closed

/-- A text that closes its string literals, in front of a text that goes on with no token. -/
theorem Cursor.drain_append {text rest : List Char} (closed : endsInside false text = false)
    (meets : ∀ c ∈ rest.head?, ∀ kind : Token.Kind, kind.extendedBy c = false) (line : Nat) :
    (⟨text ++ rest, line⟩ : Cursor).drain.1 =
      (⟨text, line⟩ : Cursor).drain.1 ++ (⟨rest, line + lineEnds text⟩ : Cursor).drain.1 := by
  obtain ⟨slices, last, cut, tokens⟩ := exists_cut text line
  rw [cut.drain_append closed meets, tokens]

/-! ## Parentheses -/

/-- A parenthesis goes on with no token. -/
theorem Token.Kind.extendedBy_paren (kind : Kind) :
    kind.extendedBy '(' = false ∧ kind.extendedBy ')' = false := by
  cases kind <;> exact ⟨rfl, rfl⟩

/-- A text in parentheses is cut into its own tokens between them. -/
theorem Cursor.drain_group {text : List Char} (closed : endsInside false text = false)
    (rest : List Char) (line : Nat) :
    (⟨'(' :: (text ++ ')' :: rest), line⟩ : Cursor).drain.1 =
      ⟨.leftParen, "(", line⟩ :: ((⟨text, line⟩ : Cursor).drain.1 ++
        ⟨.rightParen, ")", (line + lineEnds text : Nat)⟩ ::
          (⟨rest, line + lineEnds text⟩ : Cursor).drain.1) := by
  have opening := @drain_text .leftParen ['('] (text ++ ')' :: rest) rfl (fun _ _ => rfl) line
  have closing := @drain_text .rightParen [')'] rest rfl (fun _ _ => rfl) (line + lineEnds text)
  have meets : ∀ c ∈ (')' :: rest).head?, ∀ kind : Token.Kind, kind.extendedBy c = false := by
    intro c mem kind
    cases mem
    exact kind.extendedBy_paren.2
  have inside := drain_append closed meets line
  refine opening.trans (congrArg _ (inside.trans (congrArg _ closing)))

/-- The text of an operator. -/
def BinaryOp.spelling : BinaryOp → String
  | .arithmetic .add => "+"
  | .arithmetic .subtract => "-"
  | .arithmetic .multiply => "*"
  | .arithmetic .divide => "/"
  | .comparison .greater => ">"
  | .comparison .greaterOrEqual => ">="
  | .comparison .smaller => "<"
  | .comparison .smallerOrEqual => "<="
  | .equality .equal => "=="
  | .equality .unequal => "!="

theorem BinaryOp.symbol?_kind (op : BinaryOp) : op.kind.symbol? = some op.spelling.toList := by
  rcases op with op | op | op <;> cases op <;> rfl

/-- An operator in front of a parenthesis is one token. -/
theorem Cursor.drain_operator (op : BinaryOp) (rest : List Char) (line : Nat) :
    (⟨op.spelling.toList ++ '(' :: rest, line⟩ : Cursor).drain.1 =
      ⟨op.kind, op.spelling, line⟩ :: (⟨'(' :: rest, line⟩ : Cursor).drain.1 := by
  have text : op.kind.text op.spelling.toList = op.spelling.toList := by
    rcases op with op | op | op <;> cases op <;> rfl
  have lines : lineEnds op.spelling.toList = 0 := by
    rcases op with op | op | op <;> cases op <;> rfl
  have stops : ∀ c ∈ ('(' :: rest).head?, op.kind.extendedBy c = false := by
    intro c mem
    cases mem
    exact op.kind.extendedBy_paren.1
  have cutOff := drain_text (Piece.spells_of_symbol? op.symbol?_kind) stops line
  rw [text, lines, String.ofList_toList] at cutOff
  exact cutOff

/-- Two texts in parentheses around an operator are cut into their own tokens between these, those
of the second one on lines further down. -/
theorem tokenize_groups {a b : String} (closedA : endsInside false a.toList = false)
    (closedB : endsInside false b.toList = false) (op : BinaryOp) :
    ∃ closingA closingB : Token, closingA.kind = .rightParen ∧ closingB.kind = .rightParen ∧
      tokenize ("(" ++ a ++ ")" ++ op.spelling ++ "(" ++ b ++ ")") =
        (⟨.leftParen, "(", 1⟩ :: (tokenize a ++ [closingA])) ++
          ⟨op.kind, op.spelling, 1 + lineEnds a.toList⟩ ::
            (⟨.leftParen, "(", 1 + lineEnds a.toList⟩ ::
              ((tokenize b).map (Token.below (lineEnds a.toList)) ++ [closingB])) := by
  have text : ("(" ++ a ++ ")" ++ op.spelling ++ "(" ++ b ++ ")").toList =
      '(' :: (a.toList ++ ')' :: (op.spelling.toList ++ '(' :: (b.toList ++ [')']))) := by
    simp
  have first := Cursor.drain_group closedA (op.spelling.toList ++ '(' :: (b.toList ++ [')'])) 1
  have second := Cursor.drain_group closedB [] (1 + lineEnds a.toList)
  have own : (⟨a.toList, 1⟩ : Cursor).drain.1 = tokenize a := rfl
  have further : (⟨b.toList, 1 + lineEnds a.toList⟩ : Cursor).drain.1 =
      (tokenize b).map (Token.below (lineEnds a.toList)) :=
    Cursor.drain_below (lineEnds a.toList) ⟨b.toList, 1⟩
  rw [own, Cursor.drain_operator, second, further, @Cursor.drain_of_none ⟨[], _⟩ rfl] at first
  refine ⟨⟨.rightParen, ")", (1 + lineEnds a.toList : Nat)⟩,
    ⟨.rightParen, ")", (1 + lineEnds a.toList + lineEnds b.toList : Nat)⟩, rfl, rfl, ?_⟩
  show (⟨_, 1⟩ : Cursor).drain.1 = _
  rw [text, first]
  simp

/-! ## Readings -/

/-- No reader would notice that a token is further down. -/
theorem Token.keptBy_below (lines : Nat) (token : Token) : token.KeptBy (Token.below lines) :=
  Token.keptBy_of_lineless rfl

/-- The tokens of a source that is accepted derive its tree also further down. -/
theorem derives_below {source : String} {expr : Expr} (parsed : parse source = .ok expr)
    (lines : Nat) :
    Derives .expression ((tokenize source).map (Token.below lines))
      (expr.mapTokens (Token.below lines)) := by
  have read := (reads_of_parse parsed).renamed fun token _ => Token.keptBy_below lines token
  obtain ⟨tokens, split, derived⟩ := read.derived rfl
  rw [List.map_nil, List.append_nil] at split
  rw [split]
  exact derived

/-- Expressions in parentheses derive as the operands of every operator. -/
theorem Derives.groups {openingA closingA openingB closingB opToken : Token} {op : BinaryOp}
    {before after : List Token} {left right : Expr} (first : Derives .expression before left)
    (second : Derives .expression after right) (opensA : openingA.kind = .leftParen)
    (closesA : closingA.kind = .rightParen) (isOp : opToken.kind = op.kind)
    (opensB : openingB.kind = .leftParen) (closesB : closingB.kind = .rightParen) :
    Derives .expression
      ((openingA :: (before ++ [closingA])) ++ opToken :: (openingB :: (after ++ [closingB])))
      (.binary opToken (.grouping openingA left) (.grouping openingB right)) := by
  have listed : opToken.kind ∈ op.level.operators := by
    rw [Level.mem_operators_iff, isOp, Token.Kind.level?, Token.Kind.binaryOp?_kind]
    rfl
  have leftOperand := (Derives.grouping opensA first closesA).loosen
    (Phrase.tightness_le (.level op.level))
  have rightOperand := (Derives.grouping opensB second closesB).loosen
    (Phrase.tightness_le op.level.operand)
  refine (Derives.binary leftOperand listed rightOperand).loosen ?_
  cases op.level <;> decide

/-- Two sources that are accepted and close their string literals are, put in parentheses around an
operator, read as the operator between their trees in parentheses, unless that is nested too deeply.
The tree of the first source is as it was; the tokens of the second one are further down by the line
ends in the first. -/
theorem parse_groups {a b : String} {left right : Expr} (parsedA : parse a = .ok left)
    (parsedB : parse b = .ok right) (closedA : endsInside false a.toList = false)
    (closedB : endsInside false b.toList = false) (op : BinaryOp)
    (shallow : ∀ found, parse ("(" ++ a ++ ")" ++ op.spelling ++ "(" ++ b ++ ")") ≠
      .error (.rejected ⟨.nestedTooDeeply, found⟩)) :
    parse ("(" ++ a ++ ")" ++ op.spelling ++ "(" ++ b ++ ")") =
      .ok (.binary ⟨op.kind, op.spelling, 1 + lineEnds a.toList⟩
        (.grouping ⟨.leftParen, "(", 1⟩ left)
        (.grouping ⟨.leftParen, "(", 1 + lineEnds a.toList⟩
          (right.mapTokens (Token.below (lineEnds a.toList))))) := by
  obtain ⟨closingA, closingB, closesA, closesB, cut⟩ := tokenize_groups closedA closedB op
  have derives : Derives .expression
      (tokenize ("(" ++ a ++ ")" ++ op.spelling ++ "(" ++ b ++ ")"))
      (.binary ⟨op.kind, op.spelling, 1 + lineEnds a.toList⟩
        (.grouping ⟨.leftParen, "(", 1⟩ left)
        (.grouping ⟨.leftParen, "(", 1 + lineEnds a.toList⟩
          (right.mapTokens (Token.below (lineEnds a.toList))))) := by
    rw [cut]
    exact .groups (derives_of_parse parsedA) (derives_below parsedB _) rfl closesA rfl rfl closesB
  rcases parse_of_derives derives with ⟨error, deep | unfit, failed⟩ | ⟨-, parsed⟩
  · obtain ⟨found, rfl⟩ := deep
    exact absurd failed (shallow found)
  · -- All literals are those of the two sources.
    have fits : ∀ token ∈ tokenize ("(" ++ a ++ ")" ++ op.spelling ++ "(" ++ b ++ ")"),
        token.unfit? = none := by
      intro token mem
      simp only [cut, List.cons_append, List.append_assoc, List.nil_append, List.mem_cons,
        List.mem_append, List.mem_map, List.not_mem_nil, or_false] at mem
      rcases mem with rfl | inA | rfl | rfl | rfl | ⟨own, inB, rfl⟩ | rfl
      · rfl
      · exact Token.unfit?_eq_none_iff.mpr (fits_of_parse parsedA token inA)
      · exact Token.unfit?_of_kind (by simp [closesA])
      · rcases op with op | op | op <;> cases op <;> rfl
      · rfl
      · rw [(Token.keptBy_below _ own).unfit,
          Token.unfit?_eq_none_iff.mpr (fits_of_parse parsedB own inB)]
        rfl
      · exact Token.unfit?_of_kind (by simp [closesB])
    rw [List.findSome?_eq_none_iff.mpr fits] at unfit
    cases unfit
  · exact parsed

/-- A parenthesis in a string closes nothing. The line ends of the first source, one of them within
that string, count for all that follows. -/
theorem parse_groups_string :
    parse "!\n\"a)\n\"" =
      .ok (.unary ⟨.bang, "!", 1⟩ (.string ⟨.stringLiteral, "a)\n", 2⟩ "a)\n")) ∧
    parse "-\n3" = .ok (.unary ⟨.minus, "-", 1⟩ (.integer ⟨.integerLiteral, "3", 2⟩ 3)) ∧
    parse "(!\n\"a)\n\")!=(-\n3)" = .ok
      (.binary ⟨.bangEquals, "!=", 3⟩
        (.grouping ⟨.leftParen, "(", 1⟩
          (.unary ⟨.bang, "!", 1⟩ (.string ⟨.stringLiteral, "a)\n", 2⟩ "a)\n")))
        (.grouping ⟨.leftParen, "(", 3⟩
          (.unary ⟨.minus, "-", 3⟩ (.integer ⟨.integerLiteral, "3", 4⟩ 3)))) := by
  have parsedA : parse "!\n\"a)\n\"" =
      .ok (.unary ⟨.bang, "!", 1⟩ (.string ⟨.stringLiteral, "a)\n", 2⟩ "a)\n")) := by
    decide +kernel
  have parsedB : parse "-\n3" =
      .ok (.unary ⟨.minus, "-", 1⟩ (.integer ⟨.integerLiteral, "3", 2⟩ 3)) := by
    decide +kernel
  have text : "(" ++ "!\n\"a)\n\"" ++ ")" ++ (BinaryOp.equality .unequal).spelling ++
      "(" ++ "-\n3" ++ ")" = "(!\n\"a)\n\")!=(-\n3)" := by
    decide +kernel
  have accepted : (parse "(!\n\"a)\n\")!=(-\n3)").isOk = true := by decide +kernel
  have whole := parse_groups parsedA parsedB (by decide) (by decide) (.equality .unequal) (by
    rw [text]
    intro found failed
    rw [failed] at accepted
    cases accepted)
  rw [text] at whole
  exact ⟨parsedA, parsedB, whole⟩

end Abacus
