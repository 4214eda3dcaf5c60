import Abacus.Proofs.Renaming

/-!
# Written trees are read back

The source text of a tree is read as that tree again. What it does not keep of the source that the
tree came from is where the tokens stood and the leading zeros of integer literals.

Results:
1. `Numeral.significant_toDigits`: a numeral that is written anew only loses leading zeros.
2. `Derives.rereads`: the written form of a tree is cut into the tokens that the tree came from.
3. `parse_render`: the written form of a tree is read as the same tree and written the same again.
-/

namespace Abacus

open Text

/-! ## Leading zeros -/

namespace Numeral

/-- The digits of a numeral without leading zeros. -/
def significant (digits : List Char) : List Char :=
  digits.dropWhile (· == '0')

theorem digitChar_of_isDigit {c : Char} (digit : c.isDigit = true) :
    c.toNat - '0'.toNat < 10 ∧ (c.toNat - '0'.toNat).digitChar = c := by
  have bounds : 48 ≤ c.toNat ∧ c.toNat ≤ 57 := by
    simpa [Char.isDigit, UInt32.le_iff_toNat_le] using digit
  have low : c.toNat - '0'.toNat < 10 := by
    show c.toNat - 48 < 10
    omega
  refine ⟨low, Char.toNat_inj.mp ?_⟩
  rw [Nat.toNat_digitChar_of_lt_ten low]
  show 48 + (c.toNat - 48) = c.toNat
  omega

/-- Digits behind a number that is not zero are written behind it. -/
theorem toDigits_ofDigitChars {digits : List Char} (allDigits : ∀ c ∈ digits, c.isDigit = true)
    {n : Nat} (positive : 0 < n) :
    Nat.toDigits 10 (Nat.ofDigitChars 10 digits n) = Nat.toDigits 10 n ++ digits := by
  induction digits generalizing n with
  | nil => simp
  | cons c rest ih =>
    obtain ⟨low, same⟩ := digitChar_of_isDigit (allDigits c List.mem_cons_self)
    rw [Nat.ofDigitChars_cons, ih (fun d mem => allDigits d (List.mem_cons_of_mem _ mem)) (by omega),
      ← Nat.toDigits_append_toDigits (by decide) positive low, Nat.toDigits_of_lt_base low, same,
      List.append_assoc, List.singleton_append]

/-- A numeral that is written anew only loses leading zeros. -/
theorem significant_toDigits {digits : List Char} (allDigits : ∀ c ∈ digits, c.isDigit = true) :
    significant (Nat.toDigits 10 (Nat.ofDigitChars 10 digits 0)) = significant digits := by
  induction digits with
  | nil => rfl
  | cons c rest ih =>
    have restDigits : ∀ d ∈ rest, d.isDigit = true :=
      fun d mem => allDigits d (List.mem_cons_of_mem _ mem)
    by_cases zero : c = '0'
    · subst zero
      rw [Nat.ofDigitChars_cons]
      exact ih restDigits
    · obtain ⟨low, same⟩ := digitChar_of_isDigit (allDigits c List.mem_cons_self)
      have positive : 0 < c.toNat - '0'.toNat := by
        refine Nat.pos_of_ne_zero fun none => zero ?_
        rw [← same, none]
        rfl
      rw [Nat.ofDigitChars_cons, Nat.mul_zero, Nat.zero_add,
        toDigits_ofDigitChars restDigits positive, Nat.toDigits_of_lt_base low, same]
      rfl

/-- Leading zeros do not change a number. -/
theorem ofDigitChars_significant (digits : List Char) :
    Nat.ofDigitChars 10 (significant digits) 0 = Nat.ofDigitChars 10 digits 0 := by
  induction digits with
  | nil => rfl
  | cons c rest ih =>
    by_cases zero : c = '0'
    · subst zero
      rw [Nat.ofDigitChars_cons]
      exact ih
    · rw [significant, List.dropWhile_cons_of_neg (by simpa using zero)]

end Numeral

/-! ## What writing keeps of a token -/

namespace Token

/-- A token without its line and, if it is an integer literal, without leading zeros. -/
def plain (token : Token) : Token :=
  if token.kind = .integerLiteral then
    ⟨token.kind, String.ofList (Numeral.significant token.lexeme.toList), 1⟩
  else { token with line := 1 }

theorem plain_kind (token : Token) : token.plain.kind = token.kind := by
  unfold plain
  split <;> rfl

theorem plain_of_kind {token : Token} (other : token.kind ≠ .integerLiteral) :
    token.plain = { token with line := 1 } := by
  rw [plain, if_neg other]

theorem number_plain (token : Token) (integer : token.kind = .integerLiteral) :
    token.plain.number = token.number := by
  rw [plain, if_pos integer, number, number, String.toList_ofList,
    Numeral.ofDigitChars_significant]

theorem fits_plain {token : Token} (fits : token.Fits) : token.plain.Fits := by
  intro integer
  rw [plain_kind] at integer
  obtain ⟨short, small⟩ := fits integer
  rw [number_plain token integer]
  refine ⟨?_, small⟩
  have shorter := (List.dropWhile_suffix (· == '0') (l := token.lexeme.toList)).length_le
  rw [String.length_toList] at shorter
  rw [plain, if_pos integer, String.length_ofList]
  exact Nat.le_trans shorter short

theorem lineless_plain {token : Token} (other : token.kind ≠ .integerLiteral) :
    token.plain.lineless = token.lineless := by
  rw [plain_of_kind other]
  rfl

/-- A literal stands for the same value without its leading zeros. -/
theorem literal?_plain (token : Token) :
    token.plain.literal? = token.literal?.map (Expr.mapTokens plain) := by
  by_cases integer : token.kind = .integerLiteral
  · rw [literal?_of_integer integer, literal?_of_integer (by rw [plain_kind, integer]),
      number_plain token integer]
    rfl
  · exact (keptBy_of_lineless (lineless_plain integer)).literal

/-- No reader would notice the change to a token that fits. -/
theorem keptBy_plain {token : Token} (fits : token.Fits) : token.KeptBy plain := by
  by_cases integer : token.kind = .integerLiteral
  · refine ⟨plain_kind token, literal?_plain token, ?_⟩
    rw [unfit?_eq_none_iff.mpr fits, unfit?_eq_none_iff.mpr (fits_plain fits)]
    rfl
  · exact keptBy_of_lineless (lineless_plain integer)

/-- The integer literal of a number, written without leading zeros. -/
def decimal (n : Nat) (line : Int) : Token :=
  ⟨.integerLiteral, String.ofList (Nat.toDigits 10 n), line⟩

@[simp] theorem number_decimal (n : Nat) (line : Int) : (decimal n line).number = n := by
  rw [number, decimal, String.toList_ofList, Nat.ofDigitChars_ten_toDigits]

theorem literal?_decimal (n : Nat) (line : Int) :
    (decimal n line).literal? = some (.integer (decimal n line) n) := by
  rw [literal?_of_integer rfl, number_decimal]

theorem Kind.spells_toDigits (n : Nat) : Kind.integerLiteral.Spells (Nat.toDigits 10 n) :=
  ⟨Nat.toDigits_ne_nil, fun _ => Nat.isDigit_of_mem_toDigits (by decide) (by decide)⟩

theorem spelled_decimal (n : Nat) (line : Int) : (decimal n line).Spelled := by
  rw [Spelled, decimal, String.toList_ofList]
  exact Kind.spells_toDigits n

/-- The number of an integer literal that fits is short. -/
theorem short_number {token : Token} (fits : token.Fits) (integer : token.kind = .integerLiteral) :
    Numeral.Short token.number := by
  refine Integer.short_of_fits (Integer.fits_iff.mpr ⟨?_, Int.lt_add_one_of_le (fits integer).2⟩)
  unfold Integer.greatest
  omega

/-- A number in the range of integers has few enough digits. -/
theorem fits_decimal {n : Nat} (small : (n : Int) ≤ Integer.greatest) (line : Int) :
    (decimal n line).Fits := by
  intro _
  rw [number_decimal, decimal, String.length_ofList]
  have short : Numeral.Short n := by
    refine Integer.short_of_fits (Integer.fits_iff.mpr ⟨?_, Int.lt_add_one_of_le small⟩)
    unfold Integer.greatest
    omega
  exact ⟨short, small⟩

end Token

/-- A tree without the lines of its tokens and without leading zeros in its integer literals. Its
nodes, their values and the kinds and spellings of its operators are all there. -/
def Expr.plain (expr : Expr) : Expr :=
  expr.mapTokens Token.plain

/-! ## Texts that are cut into tokens again -/

/-- Wherever a text stands before something that does not go on with it, it is cut into tokens that
fit and that differ from the given ones by lines and leading zeros only. -/
def Rereads (ends : List Char → Prop) (text : List Char) (tokens : List Token) : Prop :=
  ∀ rest line, ends rest → ∃ again after,
    (⟨text ++ rest, line⟩ : Cursor).drain.1 = again ++ (⟨rest, after⟩ : Cursor).drain.1 ∧
    again.map Token.plain = tokens.map Token.plain ∧ ∀ token ∈ again, token.Fits

/-- What may stand behind an operand in a written tree. -/
def EndsOperand (rest : List Char) : Prop :=
  ∀ c ∈ rest.head?, c = ' ' ∨ c = ')'

namespace Rereads

/-- Two texts are cut apart where they meet if the first ends before the second. -/
theorem append {ends ends' : List Char → Prop} {text text' : List Char} {tokens tokens' : List Token}
    (first : Rereads ends text tokens) (second : Rereads ends' text' tokens')
    (meets : ∀ rest, ends' rest → ends (text' ++ rest)) :
    Rereads ends' (text ++ text') (tokens ++ tokens') := by
  intro rest line ended
  obtain ⟨again, middle, cut, same, fits⟩ := first (text' ++ rest) line (meets rest ended)
  obtain ⟨again', after, cut', same', fits'⟩ := second rest middle ended
  refine ⟨again ++ again', after, ?_, ?_, ?_⟩
  · rw [List.append_assoc, cut, cut', List.append_assoc]
  · rw [List.map_append, List.map_append, same, same']
  · intro token mem
    rcases List.mem_append.mp mem with before | behind
    · exact fits token before
    · exact fits' token behind

theorem space : Rereads (fun _ => True) [' '] [] := by
  intro rest line _
  exact ⟨[], line + lineEnds [' '], Cursor.drain_blank (by decide) rest line, rfl, by simp⟩

/-- A token that differs from another by its line and leading zeros is cut from its own text. -/
theorem token {kind : Token.Kind} {lexeme : List Char} {original : Token}
    (spells : kind.Spells lexeme)
    (same : ∀ line, (⟨kind, String.ofList lexeme, line⟩ : Token).plain = original.plain)
    (fits : ∀ line, (⟨kind, String.ofList lexeme, line⟩ : Token).Fits) :
    Rereads (fun rest => ∀ c ∈ rest.head?, kind.extendedBy c = false) (kind.text lexeme)
      [original] := by
  intro rest line ended
  refine ⟨[⟨kind, String.ofList lexeme, line⟩], line + lineEnds lexeme, ?_, ?_, ?_⟩
  · rw [Cursor.drain_text spells ended]
    rfl
  · rw [List.map_singleton, List.map_singleton, same]
  · intro found mem
    rw [List.mem_singleton.mp mem]
    exact fits line

/-- A token other than an integer literal is cut from the text that it was read from. -/
theorem spelled {original : Token} (spells : original.Spelled)
    (other : original.kind ≠ .integerLiteral) :
    Rereads (fun rest => ∀ c ∈ rest.head?, original.kind.extendedBy c = false)
      (original.kind.text original.lexeme.toList) [original] := by
  refine token spells (fun line => ?_) (fun line integer => absurd integer other)
  rw [String.ofList_toList]
  rfl

/-- An integer literal is cut from its number written anew. -/
theorem integer {original : Token} (spells : original.Spelled) (fits : original.Fits)
    (kind : original.kind = .integerLiteral) :
    Rereads (fun rest => ∀ c ∈ rest.head?, c.isDigit = false)
      (Nat.toDigits 10 original.number) [original] := by
  rw [Token.Spelled, kind] at spells
  refine token (Token.Kind.spells_toDigits _) (fun line => ?_)
    (fun line => Token.fits_decimal (fits kind).2 line)
  rw [Token.plain, Token.plain, if_pos rfl, if_pos kind, String.toList_ofList, kind, Token.number,
    Numeral.significant_toDigits spells.2]

/-- An operator or a parenthesis is cut from its lexeme. -/
theorem symbol {original : Token} (spells : original.Spelled)
    (other : original.kind ≠ .integerLiteral ∧ original.kind ≠ .stringLiteral) :
    Rereads (fun rest => ∀ c ∈ rest.head?, original.kind.extendedBy c = false)
      original.lexeme.toList [original] := by
  have whole := spelled spells other.1
  rw [Token.Kind.text_of_ne other.2] at whole
  exact whole

theorem narrow {ends ends' : List Char → Prop} {text : List Char} {tokens : List Token}
    (h : Rereads ends text tokens) (narrower : ∀ rest, ends' rest → ends rest) :
    Rereads ends' text tokens :=
  fun rest line ended => h rest line (narrower rest ended)

end Rereads

/-! ## Trees -/

/-- Nothing goes on with a token where an operand ends. -/
theorem EndsOperand.extendedBy {rest : List Char} (ended : EndsOperand rest) (kind : Token.Kind) :
    ∀ c ∈ rest.head?, kind.extendedBy c = false := by
  intro c mem
  rcases ended c mem with rfl | rfl
  · cases kind <;> rfl
  · cases kind <;> rfl

/-- A truth value is spelled with one of two words. -/
theorem truth_of_spelled {token : Token} (kind : token.kind = .booleanLiteral)
    (spells : token.Spelled) : token.lexeme = "true" ∨ token.lexeme = "false" := by
  rw [Token.Spelled, kind] at spells
  rw [← String.toList_inj, ← @String.toList_inj _ "false"]
  exact Piece.wordKind_eq_booleanLiteral_iff.mp spells.2

/-- The lexeme of a truth value is the word for that value. -/
theorem write_read_of_spelled {token : Token} (kind : token.kind = .booleanLiteral)
    (spells : token.Spelled) : Truth.write (Truth.read token.lexeme) = token.lexeme := by
  rcases truth_of_spelled kind spells with same | same
  · rw [same]
    rfl
  · rw [same]
    rfl

/-- The source text of a tree is cut into some tokens, wherever an operand may end behind it, and an
operator in front of it takes no part of it. -/
def Expr.WrittenAs (expr : Expr) (tokens : List Token) : Prop :=
  ∃ text, Style.source.layout expr = .ok text ∧ StartsOperand text.toList ∧
    Rereads EndsOperand text.toList tokens

/-- The written form of a literal is cut into that literal. -/
theorem Expr.writtenAs_literal {token : Token} {expr : Expr} (literal : token.literal? = some expr)
    (spells : token.Spelled) (fits : token.Fits) : expr.WrittenAs [token] := by
  obtain ⟨kind, lexeme, line⟩ := token
  cases kind <;> cases literal
  case integerLiteral.refl =>
    rw [WrittenAs, Style.layout, Numeral.write?_of_short (Token.short_number fits rfl)]
    refine ⟨_, rfl, ?_⟩
    show StartsOperand (Numeral.decimal _).toList ∧ Rereads _ (Numeral.decimal _).toList _
    rw [Numeral.decimal_ofNat, String.toList_ofList]
    refine ⟨startsOperand_text (Token.Kind.spells_toDigits _) (by simp), ?_⟩
    exact (Rereads.integer spells fits rfl).narrow fun rest ended =>
      ended.extendedBy .integerLiteral
  case booleanLiteral.refl =>
    refine ⟨_, rfl, ?_⟩
    show StartsOperand (Truth.write (Truth.read lexeme)).toList ∧
      Rereads _ (Truth.write (Truth.read lexeme)).toList _
    rw [write_read_of_spelled rfl spells]
    refine ⟨startsOperand_text spells (by simp), ?_⟩
    exact (Rereads.spelled spells (by simp)).narrow fun rest ended =>
      ended.extendedBy .booleanLiteral
  case stringLiteral.refl =>
    have text : ("\"" ++ lexeme ++ "\"").toList = '"' :: (lexeme.toList ++ ['"']) := by simp
    refine ⟨_, rfl, ?_⟩
    show StartsOperand ("\"" ++ lexeme ++ "\"").toList ∧ Rereads _ ("\"" ++ lexeme ++ "\"").toList _
    rw [text]
    refine ⟨startsOperand_text spells (by simp), ?_⟩
    exact (Rereads.spelled spells (by simp)).narrow fun rest ended =>
      ended.extendedBy .stringLiteral

theorem kind_of_unaryOp? {kind : Token.Kind} (isOp : kind.unaryOp?.isSome = true) :
    kind = .bang ∨ kind = .minus := by
  cases kind <;> first | exact .inl rfl | exact .inr rfl | cases isOp

/-- An operator in front of an operand ends where the operand starts. -/
theorem StartsOperand.extendedBy {text rest : List Char} {kind : Token.Kind}
    (starts : StartsOperand text) (isOp : kind.unaryOp?.isSome = true) :
    ∀ c ∈ (text ++ rest).head?, kind.extendedBy c = false := by
  obtain ⟨head, tail, rfl, other⟩ := starts
  intro c mem
  obtain rfl : head = c := by simpa using mem
  rcases kind_of_unaryOp? isOp with rfl | rfl
  · exact beq_eq_false_iff_ne.mpr other
  · rfl

namespace Expr.WrittenAs

variable {tokens before after : List Token} {inner operand left right : Expr}

/-- A tree in parentheses is cut into its tokens between them. -/
theorem grouping {opening closing : Token} (h : inner.WrittenAs tokens)
    (opens : opening.kind = .leftParen) (openingSpells : opening.Spelled)
    (closes : closing.kind = .rightParen) (closingSpells : closing.Spelled) :
    (Expr.grouping opening inner).WrittenAs (opening :: (tokens ++ [closing])) := by
  obtain ⟨text, written, -, reread⟩ := h
  have openingRead := Rereads.symbol openingSpells (by simp [opens])
  have closingRead := Rereads.symbol closingSpells (by simp [closes])
  rw [openingSpells.lexeme_eq (by rw [opens]; rfl)] at openingRead
  rw [closingSpells.lexeme_eq (by rw [closes]; rfl)] at closingRead
  refine ⟨"(" ++ text ++ ")", ?_, ?_, ?_⟩
  · rw [Style.layout, written]
    rfl
  · exact ⟨'(', text.toList ++ [')'], by simp, by decide⟩
  · have inside := reread.append closingRead fun rest _ c mem => by
      cases mem
      exact .inr rfl
    have whole := openingRead.append inside fun rest _ c _ => by
      rw [opens]
      rfl
    rw [String.toList_append, String.toList_append, List.append_assoc]
    exact whole.narrow fun rest ended => ended.extendedBy _

/-- An operator in front of an operand is a token in front of its tokens. -/
theorem unary {op : Token} (h : operand.WrittenAs tokens)
    (isOp : op.kind.unaryOp?.isSome = true) (spells : op.Spelled) :
    (Expr.unary op operand).WrittenAs (op :: tokens) := by
  obtain ⟨text, written, starts, reread⟩ := h
  have opRead : Rereads _ op.lexeme.toList [op] := Rereads.symbol spells
    ⟨Token.Kind.ne_of_unaryOp? isOp rfl, Token.Kind.ne_of_unaryOp? isOp rfl⟩
  refine ⟨op.lexeme ++ text ++ "", ?_, ?_, ?_⟩
  · rw [Style.layout, written]
    rfl
  · rcases kind_of_unaryOp? isOp with kind | kind
    · exact ⟨'!', text.toList, by simp [spells.lexeme_eq (by rw [kind]; rfl)], by decide⟩
    · exact ⟨'-', text.toList, by simp [spells.lexeme_eq (by rw [kind]; rfl)], by decide⟩
  · rw [String.append_empty, String.toList_append]
    -- The operand starts with no equals sign, so an exclamation mark stays a negation.
    exact opRead.append reread fun rest _ => starts.extendedBy isOp

/-- An operator between operands is a token between theirs. -/
theorem binary {op : Token} {level : Level} (first : left.WrittenAs before)
    (second : right.WrittenAs after) (isOp : op.kind.level? = some level) (spells : op.Spelled) :
    (Expr.binary op left right).WrittenAs (before ++ op :: after) := by
  obtain ⟨leftText, leftWritten, ⟨head, tail, leftStarts, other⟩, leftReread⟩ := first
  obtain ⟨rightText, rightWritten, -, rightReread⟩ := second
  have opRead : Rereads _ op.lexeme.toList [op] := Rereads.symbol spells
    ⟨Token.Kind.ne_of_level? isOp rfl, Token.Kind.ne_of_level? isOp rfl⟩
  refine ⟨"" ++ leftText ++ (" " ++ op.lexeme ++ " ") ++ rightText ++ "", ?_, ?_, ?_⟩
  · rw [Style.layout, leftWritten]
    simp only [Except.bind, rightWritten]
    rfl
  · exact ⟨head, tail ++ ' ' :: op.lexeme.toList ++ ' ' :: rightText.toList,
      by simp [leftStarts], other⟩
  · -- A space on either side keeps the operator apart from both operands.
    have spaced := Rereads.space.append rightReread fun rest _ => trivial
    have withOp := opRead.append spaced fun rest _ => by
      have blank : EndsOperand ([' '] ++ rightText.toList ++ rest) := by
        intro c mem
        cases mem
        exact .inl rfl
      exact blank.extendedBy _
    have spacedOp := Rereads.space.append withOp fun rest _ => trivial
    have whole := leftReread.append spacedOp fun rest _ c mem => by
      cases mem
      exact .inl rfl
    simpa using whole

/-- The tokens of the source text are those tokens again. -/
theorem tokenize (h : inner.WrittenAs tokens) :
    ∃ text, Style.source.layout inner = .ok text ∧
      (Abacus.tokenize text).map Token.plain = tokens.map Token.plain ∧
      ∀ token ∈ Abacus.tokenize text, token.Fits := by
  obtain ⟨text, written, -, reread⟩ := h
  obtain ⟨again, after, cut, same, fits⟩ := reread [] 1 (by simp [EndsOperand])
  have whole : Abacus.tokenize text = again := by
    rw [List.append_nil] at cut
    show (⟨text.toList, 1⟩ : Cursor).drain.1 = again
    rw [cut, Cursor.drain_of_none rfl, List.append_nil]
  rw [← whole] at same fits
  exact ⟨text, written, same, fits⟩

end Expr.WrittenAs

/-- The written form of a tree is cut into the tokens that the tree was derived from. -/
theorem Derives.rereads {phrase : Phrase} {tokens : List Token} {expr : Expr}
    (h : Derives phrase tokens expr) (spells : ∀ token ∈ tokens, token.Spelled)
    (fits : ∀ token ∈ tokens, token.Fits) : expr.WrittenAs tokens := by
  induction h with
  | literal literal =>
    exact Expr.writtenAs_literal literal (spells _ List.mem_cons_self)
      (fits _ List.mem_cons_self)
  | grouping opens _ closes ih =>
    obtain ⟨opening, inside, closing⟩ := forall_mem_grouping spells
    have written := ih inside (forall_mem_grouping fits).2.1
    exact written.grouping opens opening closes closing
  | primary _ ih => exact ih spells fits
  | unary listed _ ih =>
    obtain ⟨own, below⟩ := List.forall_mem_cons.mp spells
    have written := ih below (List.forall_mem_cons.mp fits).2
    exact written.unary (mem_unaryOperators_iff.mp listed) own
  | operand _ ih => exact ih spells fits
  | binary _ listed _ first second =>
    obtain ⟨front, own, behind⟩ := forall_mem_binary spells
    obtain ⟨frontFits, -, behindFits⟩ := forall_mem_binary fits
    have isOp := Level.mem_operators_iff.mp listed
    exact (first front frontFits).binary (second behind behindFits) isOp own

/-! ## What writing depends on -/

/-- All of a tree that derives is expressions. -/
theorem Derives.foreigns_eq {phrase : Phrase} {tokens : List Token} {expr : Expr}
    (h : Derives phrase tokens expr) : expr.foreigns = [] := by
  induction h with
  | literal literal =>
    rcases Token.literal?_cases literal with ⟨-, rfl⟩ | ⟨-, rfl⟩ | ⟨-, rfl⟩ <;> rfl
  | grouping _ _ _ ih | primary _ ih | unary _ _ ih | operand _ ih => exact ih
  | binary _ _ _ first second => rw [Expr.foreigns, first, second, List.append_nil]

/-- The integers of a tree that derives from tokens that fit are short. -/
theorem Derives.short {phrase : Phrase} {tokens : List Token} {expr : Expr}
    (h : Derives phrase tokens expr) (fits : ∀ token ∈ tokens, token.Fits) :
    expr.NumeralsShort := by
  induction h with
  | literal literal =>
    rcases Token.literal?_cases literal with ⟨integer, rfl⟩ | ⟨-, rfl⟩ | ⟨-, rfl⟩
    · exact Token.short_number (fits _ List.mem_cons_self) integer
    · trivial
    · trivial
  | grouping _ _ _ ih => exact ih (forall_mem_grouping fits).2.1
  | primary _ ih | operand _ ih => exact ih fits
  | unary _ _ ih => exact ih (List.forall_mem_cons.mp fits).2
  | binary _ _ _ first second =>
    obtain ⟨front, -, behind⟩ := forall_mem_binary fits
    exact ⟨first front, second behind⟩

/-- No operator is an integer literal, so the operators of a tree that derives lose their lines
only. -/
theorem Derives.keepsOperators_plain {phrase : Phrase} {tokens : List Token} {expr : Expr}
    (h : Derives phrase tokens expr) : expr.KeepsOperators Token.plain := by
  induction h with
  | literal literal =>
    rcases Token.literal?_cases literal with ⟨-, rfl⟩ | ⟨-, rfl⟩ | ⟨-, rfl⟩ <;> exact nofun
  | grouping _ _ _ ih => exact ih
  | primary _ ih => exact ih
  | unary listed _ ih =>
    have isOp := mem_unaryOperators_iff.mp listed
    exact List.forall_mem_cons.mpr ⟨Token.lineless_plain (Token.Kind.ne_of_unaryOp? isOp rfl), ih⟩
  | operand _ ih => exact ih
  | binary _ listed _ first second =>
    have isOp := Level.mem_operators_iff.mp listed
    have own := Token.lineless_plain (Token.Kind.ne_of_level? isOp rfl)
    exact List.forall_mem_append.mpr ⟨first, List.forall_mem_cons.mpr ⟨own, second⟩⟩

/-- A tree that derives from tokens that fit is written in every style, and its lines and leading
zeros do not show. -/
theorem Derives.layout_plain {phrase : Phrase} {tokens : List Token} {expr : Expr}
    (h : Derives phrase tokens expr) (fits : ∀ token ∈ tokens, token.Fits) (style : Style) :
    ∃ text, style.layout expr = .ok text ∧ style.layout expr.plain = .ok text := by
  obtain ⟨text, written⟩ := style.exists_layout h.foreigns_eq (h.short fits)
  exact ⟨text, written, (Expr.layout_mapTokens style h.keepsOperators_plain).trans written⟩

/-! ## Sources -/

/-- Sources with the same tokens, but for lines and leading zeros of integer literals that fit, are
read alike. -/
theorem parse_of_plain_eq {source other : String} {expr : Expr} (parsed : parse source = .ok expr)
    (same : (tokenize other).map Token.plain = (tokenize source).map Token.plain)
    (fits : ∀ token ∈ tokenize other, token.Fits) :
    ∃ again, parse other = .ok again ∧ again.plain = expr.plain := by
  have first := (reads_of_parse parsed).renamed fun token mem =>
    Token.keptBy_plain (fits_of_parse parsed token mem)
  obtain ⟨outcome, rest, read⟩ := reads_source other
  have second := read.renamed fun token mem => Token.keptBy_plain (fits token mem)
  rw [same] at second
  -- Both ends of source are the same without their lines, so the two readings are one.
  have one := first.reader_eq.symm.trans second.reader_eq
  obtain ⟨outcomes, rests⟩ := Prod.mk.inj one
  obtain rfl : rest = [] := List.map_eq_nil_iff.mp rests.symm
  cases outcome with
  | error error => cases outcomes
  | ok again =>
    refine ⟨again, parse_of_reads read, ?_⟩
    exact (Except.ok.inj outcomes).symm

/-- The written form of a tree that was read is itself read, as the same tree but for lines and
leading zeros. Both trees have the same written forms. -/
theorem parse_render {source : String} {expr : Expr} (parsed : parse source = .ok expr) :
    ∃ text shape again, expr.render = .ok text ∧ expr.print = .ok shape ∧
      parse text = .ok again ∧ again.plain = expr.plain ∧
      again.print = .ok shape ∧ again.render = .ok text := by
  have derives := derives_of_parse parsed
  have fits := fits_of_parse parsed
  obtain ⟨text, written, same, againFits⟩ :=
    (derives.rereads (tokenize_spelled source) fits).tokenize
  obtain ⟨expr', parsed', plain⟩ := parse_of_plain_eq parsed same againFits
  -- The two trees are written alike in every style.
  have alike : ∀ style : Style, ∀ form, style.layout expr = .ok form → style.layout expr' = .ok form := by
    intro style form eq
    obtain ⟨form₁, eq₁, plain₁⟩ := derives.layout_plain fits style
    obtain ⟨form₂, eq₂, plain₂⟩ :=
      (derives_of_parse parsed').layout_plain (fits_of_parse parsed') style
    rw [plain, plain₁] at plain₂
    rw [eq₂, ← plain₂, ← eq₁, eq]
  obtain ⟨shape, shown, -⟩ := derives.layout_plain fits Style.tree
  refine ⟨text, shape, expr', ?_, ?_, parsed', plain, ?_, ?_⟩
  · rw [Expr.render, Style.write_eq_layout, written]
  · rw [Expr.print, Style.write_eq_layout, shown]
  · rw [Expr.print, Style.write_eq_layout, alike _ _ shown]
  · rw [Expr.render, Style.write_eq_layout, alike _ _ written]

/-- Operators that stand close to their operands, leading zeros and a string that goes over a line
end and is not closed: all of them come back. -/
theorem reread_unterminated :
    ∃ expr again, parse "!-(007+0)==\"a\nb" = .ok expr ∧
      expr.render = .ok "!-(7 + 0) == \"a\nb\"" ∧
      parse "!-(7 + 0) == \"a\nb\"" = .ok again ∧ again.plain = expr.plain ∧
      again.print = expr.print ∧ again.render = expr.render := by
  have parsed : parse "!-(007+0)==\"a\nb" = .ok
      (.binary ⟨.equals, "==", 1⟩
        (.unary ⟨.bang, "!", 1⟩
          (.unary ⟨.minus, "-", 1⟩
            (.grouping ⟨.leftParen, "(", 1⟩
              (.binary ⟨.plus, "+", 1⟩ (.integer ⟨.integerLiteral, "007", 1⟩ 7)
                (.integer ⟨.integerLiteral, "0", 1⟩ 0)))))
        (.string ⟨.stringLiteral, "a\nb", 1⟩ "a\nb")) := by decide +kernel
  obtain ⟨text, shape, again, written, shown, reread, same, shown', written'⟩ := parse_render parsed
  obtain rfl : text = "!-(7 + 0) == \"a\nb\"" := Except.ok.inj (written.symm.trans (by decide +kernel))
  exact ⟨_, again, parsed, written, reread, same, shown'.trans shown.symm,
    written'.trans written.symm⟩

end Abacus
