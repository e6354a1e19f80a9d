import FieldPredicate.Operator

/-!
# Expressions

The tree of a predicate. Integer literals keep their text, so a tree may hold a literal that has
no value. `render` writes a tree with parentheses around every operation.
-/

namespace FieldPredicate

inductive Expr where
  /-- An integer literal, as written. -/
  | integer (text : String)
  | string (value : String)
  | bool (value : Bool)
  | symbol (name : String)
  /-- A member of the value of a symbol. -/
  | selector (object member : String)
  | unary (op : UnaryOp) (operand : Expr)
  | binary (left : Expr) (op : BinaryOp) (right : Expr)
  deriving DecidableEq

namespace Expr

/-- The expression with parentheses around every operation. -/
def render : Expr → String
  | .integer text => text
  | .string value => "`" ++ value ++ "`"
  | .bool value => if value then "true" else "false"
  | .symbol name => name
  | .selector object member => object ++ "." ++ member
  | .unary op operand => "(" ++ op.spelling ++ operand.render ++ ")"
  | .binary left op right =>
      "(" ++ left.render ++ " " ++ op.spelling ++ " " ++ right.render ++ ")"

end Expr

end FieldPredicate
