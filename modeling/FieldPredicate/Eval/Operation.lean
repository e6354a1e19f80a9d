import FieldPredicate.Error
import FieldPredicate.Numeral.Literal
import FieldPredicate.Operator
import FieldPredicate.Value

/-!
# Operations on values

Before an operand, negation and identity are defined on signed integers and floats, `!` on
booleans, and `*` follows a pointer. Between two operands, each family of operators has a table of
operations by kind. `evalBinary` adapts an untyped `nil`, requires both operands to have one kind,
and goes to the table of the operator. A table can also be used directly: it then refuses kinds
that it is not defined on, and after that an operator of another family.
-/

namespace FieldPredicate

/-! ## Operators before an operand -/

def Value.asBool (op : String) : Value → Except EvalError Bool
  | .bool b => .ok b
  | value => .error (.invalidType op value.kind)

def evalUnary (op : UnaryOp) (value : Value) : Except EvalError Value :=
  match op, value with
  | .negate, .int n =>
      if n = Int64.minValue then .error (.overflow op.spelling) else .ok (.int (-n))
  | .negate, .float32 x => .ok (.float32 (-x))
  | .negate, .float64 x => .ok (.float64 (-x))
  | .identity, .int n => .ok (.int n)
  | .identity, .float32 x => .ok (.float32 x)
  | .identity, .float64 x => .ok (.float64 x)
  | .not, value => (value.asBool op.spelling).map fun b => .bool (!b)
  | .deref, .pointer _ target => .ok target
  | .deref, .absent .pointer => .error .nilDereference
  | op, value => .error (.invalidType op.spelling value.kind)

/-! ## Arithmetic -/

def exactInt (op : BinaryOp) (n : Int) : Except EvalError Int64 :=
  match Literal.fitInt64? n with
  | some n => .ok n
  | none => .error (.overflow op.spelling)

def exactUint (op : BinaryOp) (n : Int) : Except EvalError UInt64 :=
  if 0 ≤ n ∧ n < UInt64.size then .ok (UInt64.ofNat n.toNat) else .error (.overflow op.spelling)

/-- Arithmetic on signed integers. Division goes toward zero. -/
def intArithmetic (op : BinaryOp) (a b : Int64) : Except EvalError Int64 :=
  match op with
  | .add => exactInt op (a.toInt + b.toInt)
  | .sub => exactInt op (a.toInt - b.toInt)
  | .mul => exactInt op (a.toInt * b.toInt)
  | .div => if b = 0 then .error .divisionByZero else exactInt op (a.toInt.tdiv b.toInt)
  | _ => .error (.misrouted .intArithmetic)

def uintArithmetic (op : BinaryOp) (a b : UInt64) : Except EvalError UInt64 :=
  match op with
  | .add => exactUint op ((a.toNat : Int) + b.toNat)
  | .sub => exactUint op ((a.toNat : Int) - b.toNat)
  | .mul => exactUint op ((a.toNat : Int) * b.toNat)
  | .div => if b = 0 then .error .divisionByZero else exactUint op (a.toNat / b.toNat : Nat)
  | _ => .error (.misrouted .uintArithmetic)

def float32Arithmetic (op : BinaryOp) (a b : Float32) : Except EvalError Float32 :=
  match op with
  | .add => .ok (a + b)
  | .sub => .ok (a - b)
  | .mul => .ok (a * b)
  | .div => .ok (a / b)
  | _ => .error (.misrouted .floatArithmetic)

def float64Arithmetic (op : BinaryOp) (a b : Float) : Except EvalError Float :=
  match op with
  | .add => .ok (a + b)
  | .sub => .ok (a - b)
  | .mul => .ok (a * b)
  | .div => .ok (a / b)
  | _ => .error (.misrouted .floatArithmetic)

/-- The table of arithmetic, which also joins strings. -/
def evalArithmetic (op : BinaryOp) (left right : Value) : Except EvalError Value :=
  match left, right with
  | .int a, .int b => (intArithmetic op a b).map .int
  | .uint a, .uint b => (uintArithmetic op a b).map .uint
  | .float32 a, .float32 b => (float32Arithmetic op a b).map .float32
  | .float64 a, .float64 b => (float64Arithmetic op a b).map .float64
  | .string a, .string b =>
      if op = .add then .ok (.string (a ++ b)) else .error (.invalidType op.spelling .string)
  | left, _ => .error (.invalidType op.spelling left.kind)

/-! ## Equality -/

/-- Whether two values are equal, if they have one kind. What has no payload is compared by value,
payloads by their identity, and two absent payloads are equal. -/
def equal? : Value → Value → Option Bool
  | .nil, .nil => some true
  | .bool a, .bool b => some (a = b)
  | .int a, .int b => some (a = b)
  | .uint a, .uint b => some (a = b)
  | .float32 a, .float32 b => some (a == b)
  | .float64 a, .float64 b => some (a == b)
  | .string a, .string b => some (a = b)
  | .absent a, .absent b => if a = b then some true else none
  | .slice a _, .slice b _ => some (a = b)
  | .map a _, .map b _ => some (a = b)
  | .pointer a _, .pointer b _ => some (a = b)
  | .struct a _ _, .struct b _ _ => some (a = b)
  | .absent .slice, .slice _ _ | .slice _ _, .absent .slice => some false
  | .absent .map, .map _ _ | .map _ _, .absent .map => some false
  | .absent .pointer, .pointer _ _ | .pointer _ _, .absent .pointer => some false
  | _, _ => none

def evalEquality (op : BinaryOp) (left right : Value) : Except EvalError Value :=
  match equal? left right with
  | none => .error (.invalidType op.spelling left.kind)
  | some isEqual =>
      match op with
      | .equal => .ok (.bool isEqual)
      | .notEqual => .ok (.bool !isEqual)
      | _ => .error (.misrouted .equality)

/-! ## Ordering -/

def compareBy {α : Type} [LT α] [LE α] [DecidableLT α] [DecidableLE α] (op : BinaryOp) (a b : α) :
    Except EvalError Bool :=
  match op with
  | .less => .ok (a < b)
  | .lessEqual => .ok (a ≤ b)
  | .greater => .ok (b < a)
  | .greaterEqual => .ok (b ≤ a)
  | _ => .error (.misrouted .ordering)

/-- The table of the ordering operators. Strings are ordered by their code points. -/
def evalOrdering (op : BinaryOp) (left right : Value) : Except EvalError Value :=
  match left, right with
  | .string a, .string b => (compareBy op a b).map .bool
  | .int a, .int b => (compareBy op a b).map .bool
  | .uint a, .uint b => (compareBy op a b).map .bool
  | .float32 a, .float32 b => (compareBy op a b).map .bool
  | .float64 a, .float64 b => (compareBy op a b).map .bool
  | left, _ => .error (.invalidType op.spelling left.kind)

/-! ## Logic -/

def evalLogic (op : BinaryOp) (left right : Value) : Except EvalError Value :=
  match left.asBool op.spelling, right.asBool op.spelling with
  | .error e, _ => .error e
  | .ok _, .error e => .error e
  | .ok a, .ok b =>
      match op with
      | .and => .ok (.bool (a && b))
      | .or => .ok (.bool (a || b))
      | _ => .error (.misrouted .logic)

/-! ## Bits -/

/-- A shift count, which has to be less than the width of an integer. -/
def shiftCount (count : Int) : Except EvalError Nat :=
  if 0 ≤ count ∧ count < 64 then .ok count.toNat else .error (.shiftOutOfRange (Int.repr count))

/-- Bitwise operations on signed integers. A shift to the right keeps the sign. -/
def intBitwise (op : BinaryOp) (a b : Int64) : Except EvalError Int64 :=
  match op with
  | .bitAnd => .ok (a &&& b)
  | .bitOr => .ok (a ||| b)
  | .shiftLeft => (shiftCount b.toInt).map fun n => a <<< Int64.ofNat n
  | .shiftRight => (shiftCount b.toInt).map fun n => a >>> Int64.ofNat n
  | _ => .error (.misrouted .bitwise)

def uintBitwise (op : BinaryOp) (a b : UInt64) : Except EvalError UInt64 :=
  match op with
  | .bitAnd => .ok (a &&& b)
  | .bitOr => .ok (a ||| b)
  | .shiftLeft => (shiftCount b.toNat).map fun n => a <<< UInt64.ofNat n
  | .shiftRight => (shiftCount b.toNat).map fun n => a >>> UInt64.ofNat n
  | _ => .error (.misrouted .bitwise)

def evalBitwise (op : BinaryOp) (left right : Value) : Except EvalError Value :=
  match left, right with
  | .int a, .int b => (intBitwise op a b).map .int
  | .uint a, .uint b => (uintBitwise op a b).map .uint
  | left, _ => .error (.invalidType op.spelling left.kind)

/-! ## All families -/

def evalFamily : BinaryOp.Family → BinaryOp → Value → Value → Except EvalError Value
  | .arithmetic => evalArithmetic
  | .equality => evalEquality
  | .ordering => evalOrdering
  | .logic => evalLogic
  | .bitwise => evalBitwise

def evalBinary (op : BinaryOp) (left right : Value) : Except EvalError Value :=
  let (left, right) := Value.coerceNil left right
  if left.kind = right.kind then evalFamily op.family op left right
  else .error (.typeMismatch op.spelling left.kind right.kind)

end FieldPredicate
