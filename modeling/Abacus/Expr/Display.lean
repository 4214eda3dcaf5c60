import Abacus.Expr
import Abacus.Text.Truth

/-!
# Written forms of a tree

A tree is written in one of two styles: with every node in parentheses and named, which shows its
shape, or as source text. Writing keeps a list of what is still to be written, so a long chain of
operators takes no deeper recursion than a short one. What is no expression cannot be written, nor
can an integer with too many digits.
-/

namespace Abacus

/-! ## Styles -/

/-- The texts that a style puts around and between the parts of a node. -/
structure Style where
  /-- Around the numeral of an integer. -/
  integer : String → String
  boolean : Bool → String
  string : String → String
  /-- Before and after what is in parentheses. -/
  grouping : String × String
  /-- Before and after the operand, by the spelling of the operator. -/
  unary : String → String × String
  /-- Before, between and after the operands, by the spelling of the operator. -/
  binary : String → String × String × String

/-- Every node in parentheses of its own, with its operator or the name of its kind first. -/
def Style.tree : Style where
  integer numeral := "(IntLit " ++ numeral ++ ")"
  boolean value := "(BoolLit " ++ Truth.write value ++ ")"
  string value := "(StrLit " ++ value ++ ")"
  grouping := ("(Group ", ")")
  unary spelling := ("(" ++ spelling ++ " ", ")")
  binary spelling := ("(" ++ spelling ++ " ", " ", ")")

/-- Source text: parentheses only where the tree has them, and a space on either side of a binary
operator. -/
def Style.source : Style where
  integer numeral := numeral
  boolean value := Truth.write value
  string value := "\"" ++ value ++ "\""
  grouping := ("(", ")")
  unary spelling := (spelling, "")
  binary spelling := ("", " " ++ spelling ++ " ", "")

/-! ## Writing -/

/-- Why a tree has no written form. -/
inductive Unwritten where
  | foreign (failure : Foreign)
  /-- An integer in the tree has more digits than a numeral may have. -/
  | overlong
  deriving DecidableEq, Repr

/-- Something still to be written. -/
inductive Style.Item where
  | node (expr : Expr)
  | text (text : String)
  deriving DecidableEq, Repr

/-- A bound on the steps that writing the pending items takes. -/
def Style.steps : List Style.Item → Nat
  | [] => 0
  | .node expr :: pending => expr.size + steps pending
  | .text _ :: pending => steps pending + 1

namespace Style

/-- Writes the pending items in order. A node is taken apart into its texts and the nodes below
it, which are put in front of what is pending. -/
def emit (style : Style) : List Item → String → Except Unwritten String
  | [], written => .ok written
  | .text text :: pending, written => style.emit pending (written ++ text)
  | .node (.integer _ value) :: pending, written =>
    match Numeral.write? value with
    | none => .error .overlong
    | some numeral => style.emit pending (written ++ style.integer numeral)
  | .node (.boolean _ value) :: pending, written =>
    style.emit pending (written ++ style.boolean value)
  | .node (.string _ value) :: pending, written =>
    style.emit pending (written ++ style.string value)
  | .node (.grouping _ inner) :: pending, written =>
    let (before, after) := style.grouping
    style.emit (.node inner :: .text after :: pending) (written ++ before)
  | .node (.unary token operand) :: pending, written =>
    let (before, after) := style.unary token.lexeme
    style.emit (.node operand :: .text after :: pending) (written ++ before)
  | .node (.binary token left right) :: pending, written =>
    let (before, between, after) := style.binary token.lexeme
    style.emit (.node left :: .text between :: .node right :: .text after :: pending)
      (written ++ before)
  | .node (.foreign typeName) :: _, _ => .error (.foreign ⟨typeName⟩)
termination_by pending => steps pending
decreasing_by
  all_goals simp only [steps, Expr.size]
  all_goals omega

/-- The written form of a tree in a style. -/
def write (style : Style) (expr : Expr) : Except Unwritten String :=
  style.emit [.node expr] ""

end Style

namespace Expr

/-- The form that shows the shape of a tree. -/
def print (expr : Expr) : Except Unwritten String :=
  Style.tree.write expr

/-- The tree as source text. -/
def render (expr : Expr) : Except Unwritten String :=
  Style.source.write expr

end Expr

end Abacus
