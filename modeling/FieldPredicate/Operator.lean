/-!
# Operators

The four operators before an operand and the sixteen between two operands. Each operator between
operands belongs to one of five binding levels, from `||` to the multiplicative ones.
-/

namespace FieldPredicate

inductive UnaryOp where
  | negate
  | identity
  | not
  | deref
  deriving DecidableEq

inductive BinaryOp where
  | or
  | and
  | equal
  | notEqual
  | less
  | lessEqual
  | greater
  | greaterEqual
  | add
  | sub
  | bitOr
  | mul
  | div
  | bitAnd
  | shiftLeft
  | shiftRight
  deriving DecidableEq

def UnaryOp.spelling : UnaryOp → String
  | .negate => "-"
  | .identity => "+"
  | .not => "!"
  | .deref => "*"

namespace BinaryOp

def spelling : BinaryOp → String
  | .or => "||"
  | .and => "&&"
  | .equal => "=="
  | .notEqual => "!="
  | .less => "<"
  | .lessEqual => "<="
  | .greater => ">"
  | .greaterEqual => ">="
  | .add => "+"
  | .sub => "-"
  | .bitOr => "|"
  | .mul => "*"
  | .div => "/"
  | .bitAnd => "&"
  | .shiftLeft => "<<"
  | .shiftRight => ">>"

/-- Operators that share their notion of result, and hence one table of operations. -/
inductive Family where
  | arithmetic
  | equality
  | ordering
  | logic
  | bitwise
  deriving DecidableEq

def family : BinaryOp → Family
  | .add | .sub | .mul | .div => .arithmetic
  | .equal | .notEqual => .equality
  | .less | .lessEqual | .greater | .greaterEqual => .ordering
  | .and | .or => .logic
  | .bitAnd | .bitOr | .shiftLeft | .shiftRight => .bitwise

end BinaryOp

/-- How tightly an expression binds, loosest first. -/
inductive Level where
  | or
  | and
  | comparison
  | additive
  | multiplicative
  | unary
  deriving DecidableEq

def BinaryOp.level : BinaryOp → Level
  | .or => .or
  | .and => .and
  | .equal | .notEqual | .less | .lessEqual | .greater | .greaterEqual => .comparison
  | .add | .sub | .bitOr => .additive
  | .mul | .div | .bitAnd | .shiftLeft | .shiftRight => .multiplicative

end FieldPredicate
