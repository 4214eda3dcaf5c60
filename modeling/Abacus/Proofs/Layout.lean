import Abacus.Expr.Display

/-!
# Writing by recursion

A tree is written from a list of pending items, so that deep trees need no deep recursion. The same
text is put together here from the texts of the parts of each node, which is the form that proofs
about written trees go by.

Results:
1. `Style.write_eq_layout`: both ways write the same text, and fail at the same node.
2. `Style.layout_cases`: a tree all of which is expressions is written unless a numeral is too long.
-/

namespace Abacus

namespace Expr

/-- The names of what is no expression in a tree, from left to right. -/
def foreigns : Expr → List String
  | .integer _ _ | .boolean _ _ | .string _ _ => []
  | .grouping _ inner => inner.foreigns
  | .unary _ operand => operand.foreigns
  | .binary _ left right => left.foreigns ++ right.foreigns
  | .foreign typeName => [typeName]

/-- Whether no integer in a tree has more digits than a numeral may have. -/
def NumeralsShort : Expr → Prop
  | .integer _ value => Numeral.Short value
  | .boolean _ _ | .string _ _ | .foreign _ => True
  | .grouping _ inner => inner.NumeralsShort
  | .unary _ operand => operand.NumeralsShort
  | .binary _ left right => left.NumeralsShort ∧ right.NumeralsShort

instance decidableNumeralsShort : (expr : Expr) → Decidable expr.NumeralsShort
  | .integer _ value => inferInstanceAs (Decidable (Numeral.Short value))
  | .boolean _ _ | .string _ _ | .foreign _ => .isTrue trivial
  | .grouping _ inner => decidableNumeralsShort inner
  | .unary _ operand => decidableNumeralsShort operand
  | .binary _ left right =>
    have := decidableNumeralsShort left
    have := decidableNumeralsShort right
    inferInstanceAs (Decidable (_ ∧ _))

end Expr

namespace Style

/-- The written form of a node around the written forms of its parts, from left to right. -/
def layout (style : Style) : Expr → Except Unwritten String
  | .integer _ value =>
    match Numeral.write? value with
    | none => .error .overlong
    | some numeral => .ok (style.integer numeral)
  | .boolean _ value => .ok (style.boolean value)
  | .string _ value => .ok (style.string value)
  | .grouping _ inner =>
    (style.layout inner).map fun text => style.grouping.1 ++ text ++ style.grouping.2
  | .unary token operand =>
    (style.layout operand).map fun text =>
      (style.unary token.lexeme).1 ++ text ++ (style.unary token.lexeme).2
  | .binary token left right =>
    (style.layout left).bind fun before =>
      (style.layout right).map fun after =>
        (style.binary token.lexeme).1 ++ before ++ (style.binary token.lexeme).2.1 ++ after
          ++ (style.binary token.lexeme).2.2
  | .foreign typeName => .error (.foreign ⟨typeName⟩)

/-- A pending node is written in full before anything behind it, or nothing is written at all. -/
theorem emit_node (style : Style) (expr : Expr) (pending : List Item) (written : String) :
    style.emit (.node expr :: pending) written =
      (style.layout expr).bind fun text => style.emit pending (written ++ text) := by
  induction expr generalizing pending written with
  | integer token value =>
    rw [emit, layout]
    cases Numeral.write? value <;> rfl
  | boolean token value => rw [emit]; rfl
  | string token value => rw [emit]; rfl
  | grouping token inner ih =>
    rw [emit, layout]
    change style.emit (.node inner :: .text style.grouping.2 :: pending) _ = _
    rw [ih]
    cases style.layout inner with
    | error failure => rfl
    | ok text => simp only [Except.bind, Except.map, emit, String.append_assoc]
  | unary token operand ih =>
    rw [emit, layout]
    change style.emit (.node operand :: .text (style.unary token.lexeme).2 :: pending) _ = _
    rw [ih]
    cases style.layout operand with
    | error failure => rfl
    | ok text => simp only [Except.bind, Except.map, emit, String.append_assoc]
  | binary token left right first second =>
    rw [emit, layout]
    change style.emit (.node left :: .text (style.binary token.lexeme).2.1 :: .node right ::
      .text (style.binary token.lexeme).2.2 :: pending) _ = _
    rw [first]
    cases style.layout left with
    | error failure => rfl
    | ok before =>
      simp only [Except.bind, emit, second]
      cases style.layout right with
      | error failure => rfl
      | ok after => simp only [Except.map, String.append_assoc]
  | «foreign» typeName => rw [emit]; rfl

/-- The text of a tree is put together from the texts of its parts. -/
theorem write_eq_layout (style : Style) (expr : Expr) : style.write expr = style.layout expr := by
  rw [write, emit_node]
  cases style.layout expr with
  | error failure => rfl
  | ok text => simp [Except.bind, emit]

/-- A tree all of which is expressions is written in every style, unless a numeral is too long. -/
theorem layout_cases (style : Style) {expr : Expr} (whole : expr.foreigns = []) :
    (∃ text, style.layout expr = .ok text) ∨
      style.layout expr = .error .overlong ∧ ¬expr.NumeralsShort := by
  induction expr with
  | integer token value =>
    rw [layout]
    by_cases short : Numeral.Short value
    · rw [Numeral.write?_of_short short]
      exact .inl ⟨_, rfl⟩
    · rw [Numeral.write?_of_not_short short]
      exact .inr ⟨rfl, short⟩
  | boolean | string => exact .inl ⟨_, rfl⟩
  | grouping token inner ih | unary token inner ih =>
    rw [layout]
    rcases ih whole with ⟨text, written⟩ | ⟨fails, long⟩
    · rw [written]
      exact .inl ⟨_, rfl⟩
    · rw [fails]
      exact .inr ⟨rfl, long⟩
  | binary token left right first second =>
    obtain ⟨leftWhole, rightWhole⟩ := List.append_eq_nil_iff.mp whole
    rw [layout]
    rcases first leftWhole with ⟨before, written⟩ | ⟨fails, long⟩
    · rw [written]
      rcases second rightWhole with ⟨after, writtenToo⟩ | ⟨fails, long⟩
      · rw [writtenToo]
        exact .inl ⟨_, rfl⟩
      · rw [fails]
        exact .inr ⟨rfl, fun short => long short.2⟩
    · rw [fails]
      exact .inr ⟨rfl, fun short => long short.1⟩
  | «foreign» typeName => cases whole

/-- With short numerals, a tree all of which is expressions is written in every style. -/
theorem exists_layout (style : Style) {expr : Expr} (whole : expr.foreigns = [])
    (short : expr.NumeralsShort) : ∃ text, style.layout expr = .ok text :=
  (style.layout_cases whole).resolve_right fun fails => fails.2 short

end Style

end Abacus
