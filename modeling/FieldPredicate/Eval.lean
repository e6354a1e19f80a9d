import FieldPredicate.Eval.Operation
import FieldPredicate.Expr
import FieldPredicate.SymbolTable

/-!
# Evaluation

An expression is evaluated from left to right, and both operands before their operator, so the
first part that has no value decides the error. Evaluation hands on the payloads of the table and
makes none.
-/

namespace FieldPredicate

/-- The value of a symbol: its binding, or the untyped `nil` for the unbound name `nil`. -/
def evalSymbol (table : SymbolTable) (name : String) : Except EvalError Value :=
  match table.get? name with
  | some value => .ok value
  | none => if name = "nil" then .ok .nil else .error (.symbolNotFound name)

/-- A member of a value: a field of a structure or an entry of a map, through any pointers. -/
def Value.select (object member : String) : Value → Except EvalError Value
  | .pointer _ target => target.select object member
  | .absent .pointer => .error .nilDereference
  | .struct _ _ fields => found (field? fields member)
  | .map _ entries => found (atKey? entries member)
  | .absent .map => found none
  | value => .error (.invalidType "." value.kind)
where
  found : Option Value → Except EvalError Value
    | some value => .ok value
    | none => .error (.memberNotFound object member)

def evalSelector (table : SymbolTable) (object member : String) : Except EvalError Value :=
  match evalSymbol table object with
  | .error e => .error e
  | .ok value => value.select object member

def eval (table : SymbolTable) : Expr → Except EvalError Value
  | .integer text => (Literal.decode text).map .int
  | .string value => .ok (.string value)
  | .bool value => .ok (.bool value)
  | .symbol name => evalSymbol table name
  | .selector object member => evalSelector table object member
  | .unary op operand =>
      match eval table operand with
      | .error e => .error e
      | .ok value => evalUnary op value
  | .binary left op right =>
      match eval table left with
      | .error e => .error e
      | .ok a =>
          match eval table right with
          | .error e => .error e
          | .ok b => evalBinary op a b

section Operations

variable {table : SymbolTable} {value : Value}

@[simp] theorem eval_selector (object member : String) :
    eval table (.selector object member) =
      (evalSymbol table object).bind (Value.select object member) := by
  rw [eval, evalSelector]
  cases evalSymbol table object <;> rfl

@[simp] theorem eval_unary (op : UnaryOp) (operand : Expr) :
    eval table (.unary op operand) = (eval table operand).bind (evalUnary op) := by
  rw [eval]
  cases eval table operand <;> rfl

@[simp] theorem eval_binary (left : Expr) (op : BinaryOp) (right : Expr) :
    eval table (.binary left op right) =
      (eval table left).bind fun a => (eval table right).bind (evalBinary op a) := by
  rw [eval]
  cases eval table left with
  | error error => rfl
  | ok a => cases eval table right <;> rfl

theorem exists_of_eval_unary {op : UnaryOp} {operand : Expr}
    (h : eval table (.unary op operand) = .ok value) :
    ∃ a, eval table operand = .ok a ∧ evalUnary op a = .ok value := by
  rw [eval_unary] at h
  cases hoperand : eval table operand with
  | error error =>
      rw [hoperand] at h
      cases h
  | ok a =>
      rw [hoperand] at h
      exact ⟨a, rfl, h⟩

theorem exists_of_eval_binary {left right : Expr} {op : BinaryOp}
    (h : eval table (.binary left op right) = .ok value) :
    ∃ a b, eval table left = .ok a ∧ eval table right = .ok b ∧ evalBinary op a b = .ok value := by
  rw [eval_binary] at h
  cases hleft : eval table left with
  | error error =>
      rw [hleft] at h
      cases h
  | ok a =>
      cases hright : eval table right with
      | error error =>
          rw [hleft, hright] at h
          cases h
      | ok b =>
          rw [hleft, hright] at h
          exact ⟨a, b, rfl, rfl, h⟩

end Operations

end FieldPredicate
