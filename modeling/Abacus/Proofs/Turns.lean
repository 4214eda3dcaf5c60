import Abacus.Proofs.Layout

/-!
# Writing turn by turn

Writing takes one pending item at a time. A text is written and a node is taken apart, so there may
be more items pending after a turn than before it. What is still to be taken apart gets less all the
same, each node of the tree and each text between nodes being taken once, and that bounds the number
of turns. What comes of them is told here by recursion on the tree, in the words of each style.

Results:
1. `Style.emit_cons`: writing is a loop of turns.
2. `Style.steps_turn`: a turn leaves one step less to do.
3. `Style.emitWithin_eq`: the loop is over within the steps of what is pending.
4. `Style.Describes.layout_eq`: what a style writes, told by recursion, unless something in the tree
   cannot be written.
5. `written_forms`: both written forms of any tree, and how many turns they take.
-/

namespace Abacus

/-! ## Written forms by recursion -/

namespace Expr

/-- Why a tree cannot be written: what in it has no written form, from left to right. -/
def unwritten : Expr → List Unwritten
  | .integer _ value => if Numeral.Short value then [] else [.overlong]
  | .boolean _ _ | .string _ _ => []
  | .grouping _ inner => inner.unwritten
  | .unary _ operand => operand.unwritten
  | .binary _ left right => left.unwritten ++ right.unwritten
  | .foreign typeName => [.foreign ⟨typeName⟩]

/-- With short numerals, only what is no expression cannot be written. -/
theorem unwritten_of_short {expr : Expr} (short : expr.NumeralsShort) :
    expr.unwritten = expr.foreigns.map fun typeName => .foreign ⟨typeName⟩ := by
  induction expr with
  | integer token value => exact if_pos short
  | boolean | string | «foreign» => rfl
  | grouping token inner ih => exact ih short
  | unary token operand ih => exact ih short
  | binary token left right first second =>
    rw [unwritten, foreigns, first short.1, second short.2, List.map_append]

/-- A text for a tree, or the failure to write the first thing in it that cannot be written. -/
def unlessUnwritten (expr : Expr) (text : String) : Except Unwritten String :=
  match expr.unwritten with
  | [] => .ok text
  | failure :: _ => .error failure

/-- A text for a tree, or the failure to write the first thing in it that is no expression. -/
def unlessForeign (expr : Expr) (text : String) : Except Unwritten String :=
  match expr.foreigns with
  | [] => .ok text
  | typeName :: _ => .error (.foreign ⟨typeName⟩)

/-- With short numerals, only what is no expression fails. -/
theorem unlessUnwritten_of_short {expr : Expr} (short : expr.NumeralsShort) (text : String) :
    expr.unlessUnwritten text = expr.unlessForeign text := by
  rw [unlessUnwritten, unlessForeign, unwritten_of_short short]
  cases expr.foreigns <;> rfl

/-- The form that shows the shape of a tree. What is no expression has no form. -/
def printedForm : Expr → String
  | .integer _ value => "(IntLit " ++ Numeral.decimal value ++ ")"
  | .boolean _ value => "(BoolLit " ++ Truth.write value ++ ")"
  | .string _ value => "(StrLit " ++ value ++ ")"
  | .grouping _ inner => "(Group " ++ inner.printedForm ++ ")"
  | .unary token operand => "(" ++ token.lexeme ++ " " ++ operand.printedForm ++ ")"
  | .binary token left right =>
    "(" ++ token.lexeme ++ " " ++ left.printedForm ++ " " ++ right.printedForm ++ ")"
  | .foreign _ => ""

/-- The source text of a tree. What is no expression has none. -/
def renderedForm : Expr → String
  | .integer _ value => Numeral.decimal value
  | .boolean _ value => Truth.write value
  | .string _ value => "\"" ++ value ++ "\""
  | .grouping _ inner => "(" ++ inner.renderedForm ++ ")"
  | .unary token operand => token.lexeme ++ operand.renderedForm
  | .binary token left right =>
    left.renderedForm ++ " " ++ token.lexeme ++ " " ++ right.renderedForm
  | .foreign _ => ""

end Expr

namespace Style

/-- A function on trees puts the texts of a style around what it makes of the parts of a node. -/
structure Describes (style : Style) (form : Expr → String) : Prop where
  integer (token : Token) (value : Int) :
    form (.integer token value) = style.integer (Numeral.decimal value)
  boolean (token : Token) (value : Bool) : form (.boolean token value) = style.boolean value
  string (token : Token) (value : String) : form (.string token value) = style.string value
  grouping (token : Token) (inner : Expr) :
    form (.grouping token inner) = style.grouping.1 ++ form inner ++ style.grouping.2
  unary (token : Token) (operand : Expr) :
    form (.unary token operand) =
      (style.unary token.lexeme).1 ++ form operand ++ (style.unary token.lexeme).2
  binary (token : Token) (left right : Expr) :
    form (.binary token left right) =
      (style.binary token.lexeme).1 ++ form left ++ (style.binary token.lexeme).2.1 ++ form right
        ++ (style.binary token.lexeme).2.2

/-- What a style writes is told by such a function, and by the first thing not to be written. -/
theorem Describes.layout_eq {style : Style} {form : Expr → String}
    (describes : style.Describes form) (expr : Expr) :
    style.layout expr = expr.unlessUnwritten (form expr) := by
  induction expr with
  | integer token value =>
    rw [layout, describes.integer, Expr.unlessUnwritten, Expr.unwritten]
    by_cases short : Numeral.Short value
    · rw [Numeral.write?_of_short short, if_pos short]
    · rw [Numeral.write?_of_not_short short, if_neg short]
  | boolean token value => rw [layout, describes.boolean]; rfl
  | string token value => rw [layout, describes.string]; rfl
  | grouping token inner ih =>
    rw [layout, ih, describes.grouping, Expr.unlessUnwritten, Expr.unlessUnwritten, Expr.unwritten]
    cases inner.unwritten <;> rfl
  | unary token operand ih =>
    rw [layout, ih, describes.unary, Expr.unlessUnwritten, Expr.unlessUnwritten, Expr.unwritten]
    cases operand.unwritten <;> rfl
  | binary token left right first second =>
    -- The left operand is written first, so what fails in it comes before the right one.
    rw [layout, first, second, describes.binary, Expr.unlessUnwritten, Expr.unlessUnwritten,
      Expr.unlessUnwritten, Expr.unwritten]
    cases left.unwritten <;> cases right.unwritten <;> rfl
  | «foreign» typeName => rfl

theorem tree_describes : Style.tree.Describes Expr.printedForm where
  integer _ _ := rfl
  boolean _ _ := rfl
  string _ _ := rfl
  grouping _ _ := rfl
  unary _ _ := rfl
  binary _ _ _ := rfl

theorem source_describes : Style.source.Describes Expr.renderedForm where
  integer _ _ := rfl
  boolean _ _ := rfl
  string _ _ := rfl
  grouping _ _ := rfl
  unary token operand := by
    show token.lexeme ++ operand.renderedForm = token.lexeme ++ operand.renderedForm ++ ""
    rw [String.append_empty]
  binary token left right := by
    show left.renderedForm ++ " " ++ token.lexeme ++ " " ++ right.renderedForm =
      "" ++ left.renderedForm ++ (" " ++ token.lexeme ++ " ") ++ right.renderedForm ++ ""
    simp only [String.append_empty, String.empty_append, String.append_assoc]

/-! ## Turns -/

/-- What taking an item comes to: the text that is written at once, and what is pending in place of
the item. -/
def Item.turn (style : Style) : Item → Except Unwritten (String × List Item)
  | .text own => .ok (own, [])
  | .node (.integer _ value) =>
    match Numeral.write? value with
    | none => .error .overlong
    | some numeral => .ok (style.integer numeral, [])
  | .node (.boolean _ value) => .ok (style.boolean value, [])
  | .node (.string _ value) => .ok (style.string value, [])
  | .node (.grouping _ inner) =>
    let (before, after) := style.grouping
    .ok (before, [.node inner, .text after])
  | .node (.unary token operand) =>
    let (before, after) := style.unary token.lexeme
    .ok (before, [.node operand, .text after])
  | .node (.binary token left right) =>
    let (before, between, after) := style.binary token.lexeme
    .ok (before, [.node left, .text between, .node right, .text after])
  | .node (.foreign typeName) => .error (.foreign ⟨typeName⟩)

/-- What a number of turns comes to, or nothing if there is something pending after them. -/
def emitWithin (style : Style) : Nat → List Item → String → Option (Except Unwritten String)
  | _, [], written => some (.ok written)
  | 0, _ :: _, _ => none
  | turns + 1, item :: pending, written =>
    match item.turn style with
    | .error failure => some (.error failure)
    | .ok (text, items) => style.emitWithin turns (items ++ pending) (written ++ text)

/-- Writing takes a turn and goes on with what is pending then. -/
theorem emit_cons (style : Style) (item : Item) (pending : List Item) (written : String) :
    style.emit (item :: pending) written =
      match item.turn style with
      | .error failure => .error failure
      | .ok (text, items) => style.emit (items ++ pending) (written ++ text) := by
  cases item with
  | text text => rw [emit]; rfl
  | node expr =>
    cases expr with
    | integer token value =>
      rw [emit, Item.turn]
      cases Numeral.write? value <;> rfl
    | _ => rw [emit]; rfl

theorem steps_append (items pending : List Item) :
    steps (items ++ pending) = steps items + steps pending := by
  induction items with
  | nil => exact (Nat.zero_add _).symm
  | cons item items ih => cases item <;> simp only [List.cons_append, steps, ih] <;> omega

/-- A turn leaves one step less to do, however many items it leaves. -/
theorem steps_turn {style : Style} {item : Item} {text : String} {items : List Item}
    (turned : item.turn style = .ok (text, items)) (pending : List Item) :
    steps (item :: pending) = steps (items ++ pending) + 1 := by
  rw [steps_append]
  cases item with
  | text own => cases turned; simp only [steps]; omega
  | node expr =>
    cases expr with
    | integer token value =>
      rw [Item.turn] at turned
      cases written : Numeral.write? value with
      | none => rw [written] at turned; cases turned
      | some numeral =>
        rw [written] at turned
        cases turned
        simp only [steps, Expr.size]
        omega
    | _ => cases turned <;> simp only [steps, Expr.size] <;> omega

/-- The loop is over within the steps of what is pending. -/
theorem emitWithin_eq (style : Style) {turns : Nat} {pending : List Item} (written : String)
    (enough : steps pending ≤ turns) :
    style.emitWithin turns pending written = some (style.emit pending written) := by
  induction turns generalizing pending written with
  | zero =>
    cases pending with
    | nil => rw [emitWithin, emit]
    | cons item pending =>
      cases item with
      | text text => cases enough
      | node expr =>
        have positive := expr.size_pos
        simp only [steps] at enough
        omega
  | succ turns ih =>
    cases pending with
    | nil => rw [emitWithin, emit]
    | cons item pending =>
      rw [emitWithin, emit_cons]
      cases turned : item.turn style with
      | error failure => rfl
      | ok left =>
        obtain ⟨text, items⟩ := left
        rw [steps_turn turned] at enough
        exact ih _ (Nat.le_of_succ_le_succ enough)

end Style

/-! ## Trees -/

/-- Both written forms of any tree, whatever its tokens and however deep it is. If all of it can be
written, they are the texts told by recursion; if not, there is no text, and the failure is that of
the first thing from left to right that cannot be written. If no numeral is too long, that is the
first thing that is no expression. Writing from a list of what is pending comes to an end in so many
turns as the tree has nodes and texts between them. -/
theorem written_forms (expr : Expr) :
    expr.print = expr.unlessUnwritten expr.printedForm ∧
    expr.render = expr.unlessUnwritten expr.renderedForm ∧
    (expr.NumeralsShort → expr.print = expr.unlessForeign expr.printedForm ∧
      expr.render = expr.unlessForeign expr.renderedForm) ∧
    ∀ more,
      Style.tree.emitWithin (expr.size + more) [.node expr] "" = some expr.print ∧
      Style.source.emitWithin (expr.size + more) [.node expr] "" = some expr.render := by
  have enough : ∀ more, Style.steps [.node expr] ≤ expr.size + more := fun more =>
    Nat.le_add_right expr.size more
  have printed : expr.print = expr.unlessUnwritten expr.printedForm := by
    rw [Expr.print, Style.write_eq_layout, Style.tree_describes.layout_eq]
  have rendered : expr.render = expr.unlessUnwritten expr.renderedForm := by
    rw [Expr.render, Style.write_eq_layout, Style.source_describes.layout_eq]
  refine ⟨printed, rendered, fun short => ⟨?_, ?_⟩, fun more => ⟨?_, ?_⟩⟩
  · rw [printed, Expr.unlessUnwritten_of_short short]
  · rw [rendered, Expr.unlessUnwritten_of_short short]
  · exact Style.tree.emitWithin_eq "" (enough more)
  · exact Style.source.emitWithin_eq "" (enough more)

/-- Of two foreign things, the left one is named, although it lies deeper. -/
theorem written_forms_two_foreigns :
    ∃ sum : Expr, sum = .binary ⟨.plus, "+", 1⟩ (.grouping ⟨.leftParen, "(", 1⟩ (.foreign "Token"))
        (.binary ⟨.plus, "+", 1⟩ (.integer ⟨.integerLiteral, "1", 1⟩ 1) (.foreign "int")) ∧
      sum.NumeralsShort ∧ sum.print = .error (.foreign ⟨"Token"⟩) ∧
      sum.render = .error (.foreign ⟨"Token"⟩) := by
  refine ⟨_, rfl, by decide, ?_⟩
  exact (written_forms _).2.2.1 (by decide)

end Abacus
