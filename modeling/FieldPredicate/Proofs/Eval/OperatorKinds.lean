import FieldPredicate.Eval.Operation

/-!
# Operators and kinds

The kinds of the operands decide whether an operation is defined and of which kind its value is.
Values decide only whether it faults: by an overflow, a division by zero or a shift count out of
range. Each table of operations is shown to follow its kinds, and from the tables every operator.
-/

namespace FieldPredicate

/-! ## Faults -/

/-- The errors that the kinds of operands do not foretell. -/
def EvalError.isFault : EvalError → Bool
  | .overflow _ | .divisionByZero | .shiftOutOfRange _ => true
  | _ => false

def OnlyFaults {α : Type} (result : Except EvalError α) : Prop :=
  ∀ error, result = .error error → error.isFault = true

namespace OnlyFaults

variable {α β : Type}

theorem ok (x : α) : OnlyFaults (.ok x : Except EvalError α) := by
  intro error h
  cases h

theorem error {error : EvalError} (hfault : error.isFault = true) :
    OnlyFaults (.error error : Except EvalError α) := by
  intro other h
  cases h
  exact hfault

theorem map {result : Except EvalError α} (h : OnlyFaults result) (f : α → β) :
    OnlyFaults (result.map f) := by
  cases result with
  | ok x => exact ok (f x)
  | error error => exact OnlyFaults.error (h error rfl)

end OnlyFaults

section Operations

variable {op : BinaryOp}

theorem exactInt_onlyFaults (n : Int) : OnlyFaults (exactInt op n) := by
  unfold exactInt
  split
  · exact .ok _
  · exact .error rfl

theorem exactUint_onlyFaults (n : Int) : OnlyFaults (exactUint op n) := by
  unfold exactUint
  split
  · exact .ok _
  · exact .error rfl

theorem intArithmetic_onlyFaults (hop : op.family = .arithmetic) (a b : Int64) :
    OnlyFaults (intArithmetic op a b) := by
  cases op with
  | add | sub | mul => exact exactInt_onlyFaults _
  | div =>
      simp only [intArithmetic]
      split
      · exact .error rfl
      · exact exactInt_onlyFaults _
  | _ => cases hop

theorem uintArithmetic_onlyFaults (hop : op.family = .arithmetic) (a b : UInt64) :
    OnlyFaults (uintArithmetic op a b) := by
  cases op with
  | add | sub | mul => exact exactUint_onlyFaults _
  | div =>
      simp only [uintArithmetic]
      split
      · exact .error rfl
      · exact exactUint_onlyFaults _
  | _ => cases hop

theorem float32Arithmetic_onlyFaults (hop : op.family = .arithmetic) (a b : Float32) :
    OnlyFaults (float32Arithmetic op a b) := by
  cases op with
  | add | sub | mul | div => exact .ok _
  | _ => cases hop

theorem float64Arithmetic_onlyFaults (hop : op.family = .arithmetic) (a b : Float) :
    OnlyFaults (float64Arithmetic op a b) := by
  cases op with
  | add | sub | mul | div => exact .ok _
  | _ => cases hop

theorem compareBy_onlyFaults {α : Type} [LT α] [LE α] [DecidableLT α] [DecidableLE α]
    (hop : op.family = .ordering) (a b : α) : OnlyFaults (compareBy op a b) := by
  cases op with
  | less | lessEqual | greater | greaterEqual => exact .ok _
  | _ => cases hop

theorem shiftCount_onlyFaults (count : Int) : OnlyFaults (shiftCount count) := by
  unfold shiftCount
  split
  · exact .ok _
  · exact .error rfl

theorem intBitwise_onlyFaults (hop : op.family = .bitwise) (a b : Int64) :
    OnlyFaults (intBitwise op a b) := by
  cases op with
  | bitAnd | bitOr => exact .ok _
  | shiftLeft | shiftRight => exact (shiftCount_onlyFaults _).map _
  | _ => cases hop

theorem uintBitwise_onlyFaults (hop : op.family = .bitwise) (a b : UInt64) :
    OnlyFaults (uintBitwise op a b) := by
  cases op with
  | bitAnd | bitOr => exact .ok _
  | shiftLeft | shiftRight => exact (shiftCount_onlyFaults _).map _
  | _ => cases hop

end Operations

/-! ## Operators before an operand -/

/-- What an evaluation may come to where kinds foretell a kind or an error. A fault may come
before a foretold error, and hides it. -/
inductive Conforms : Except EvalError Kind → Except EvalError Value → Prop
  | value {kind : Kind} {value : Value} : value.OfKind kind → Conforms (.ok kind) (.ok value)
  | fault {expected : Except EvalError Kind} {error : EvalError} :
      error.isFault = true → Conforms expected (.error error)
  | refused {error : EvalError} : Conforms (.error error) (.error error)

def UnaryOp.isDefinedOn : UnaryOp → Kind → Bool
  | .negate, kind | .identity, kind => kind = .int || kind = .float32 || kind = .float64
  | .not, kind => kind = .bool
  | .deref, kind => kind = .pointer

/-- The kind of an operation that keeps the kind of its operand. -/
def unaryKind (op : UnaryOp) (kind : Kind) : Except EvalError Kind :=
  if op.isDefinedOn kind then .ok kind else .error (.invalidType op.spelling kind)

/-- Dereferencing is left out, as the kind of a pointer does not tell the kind of its target. -/
theorem evalUnary_conforms {op : UnaryOp} {kind : Kind} {value : Value} (hop : op ≠ .deref)
    (hvalue : value.OfKind kind) : Conforms (unaryKind op kind) (evalUnary op value) := by
  cases op with
  | negate =>
      cases hvalue with
      | int n =>
          simp only [evalUnary]
          split
          · exact .fault rfl
          · exact .value (.int _)
      | float32 x => exact .value (.float32 _)
      | float64 x => exact .value (.float64 _)
      | _ => exact .refused
  | identity =>
      cases hvalue with
      | int n => exact .value (.int n)
      | float32 x => exact .value (.float32 x)
      | float64 x => exact .value (.float64 x)
      | _ => exact .refused
  | not =>
      cases hvalue with
      | bool b => exact .value (.bool _)
      | _ => exact .refused
  | deref => exact absurd rfl hop

/-! ## Operators between operands of one kind -/

namespace BinaryOp

def isDefinedOn (op : BinaryOp) (kind : Kind) : Bool :=
  match op.family with
  | .arithmetic => kind.isNumeric || (op = .add && kind = .string)
  | .equality => true
  | .ordering => kind.isNumeric || kind = .string
  | .logic => kind = .bool
  | .bitwise => kind = .int || kind = .uint

def resultKind (op : BinaryOp) (kind : Kind) : Kind :=
  match op.family with
  | .arithmetic | .bitwise => kind
  | .equality | .ordering | .logic => .bool

/-- The kind of an operation on two operands of one kind. -/
def operationKind (op : BinaryOp) (kind : Kind) : Except EvalError Kind :=
  if op.isDefinedOn kind then .ok (op.resultKind kind)
  else .error (.invalidType op.spelling kind)

end BinaryOp

section Tables

variable {op : BinaryOp} {kind : Kind} {left right : Value}

theorem Conforms.operation {α : Type} {make : α → Value} {produced : Kind}
    {result : Except EvalError α} (hdefined : op.isDefinedOn kind = true)
    (hresult : op.resultKind kind = produced) (hmake : ∀ x, (make x).OfKind produced)
    (h : OnlyFaults result) : Conforms (op.operationKind kind) (result.map make) := by
  rw [BinaryOp.operationKind, if_pos hdefined, hresult]
  cases result with
  | ok x => exact .value (hmake x)
  | error error => exact .fault (h error rfl)

theorem Conforms.undefined (h : op.isDefinedOn kind = false) :
    Conforms (op.operationKind kind) (.error (.invalidType op.spelling kind)) := by
  rw [BinaryOp.operationKind, h]
  exact .refused

theorem conforms_arithmetic (hop : op.family = .arithmetic) (hleft : left.OfKind kind)
    (hright : right.OfKind kind) :
    Conforms (op.operationKind kind) (evalArithmetic op left right) := by
  have hdefined : op.isDefinedOn kind = (kind.isNumeric || (op = .add && kind = .string)) := by
    simp only [BinaryOp.isDefinedOn, hop]
  have hresult : op.resultKind kind = kind := by
    simp only [BinaryOp.resultKind, hop]
  cases hleft with
  | int a =>
      cases hright with
      | int b => exact .operation hdefined hresult .int (intArithmetic_onlyFaults hop a b)
  | uint a =>
      cases hright with
      | uint b => exact .operation hdefined hresult .uint (uintArithmetic_onlyFaults hop a b)
  | float32 a =>
      cases hright with
      | float32 b =>
          exact .operation hdefined hresult .float32 (float32Arithmetic_onlyFaults hop a b)
  | float64 a =>
      cases hright with
      | float64 b =>
          exact .operation hdefined hresult .float64 (float64Arithmetic_onlyFaults hop a b)
  | string a =>
      cases hright with
      | string b =>
          by_cases hadd : op = .add
          · subst hadd
            exact .value (.string (a ++ b))
          · rw [evalArithmetic, if_neg hadd]
            apply Conforms.undefined
            simp [hdefined, Kind.isNumeric, hadd]
  | _ =>
      apply Conforms.undefined
      simp [hdefined, Kind.isNumeric]

theorem exists_equal? (hleft : left.OfKind kind) (hright : right.OfKind kind) :
    ∃ isEqual, equal? left right = some isEqual := by
  cases hleft <;> cases hright <;> exact ⟨_, rfl⟩

theorem conforms_equality (hop : op.family = .equality) (hleft : left.OfKind kind)
    (hright : right.OfKind kind) :
    Conforms (op.operationKind kind) (evalEquality op left right) := by
  obtain ⟨isEqual, hequal⟩ := exists_equal? hleft hright
  rw [evalEquality, hequal]
  cases op with
  | equal | notEqual => exact .value (.bool _)
  | _ => cases hop

theorem conforms_ordering (hop : op.family = .ordering) (hleft : left.OfKind kind)
    (hright : right.OfKind kind) :
    Conforms (op.operationKind kind) (evalOrdering op left right) := by
  have hdefined : op.isDefinedOn kind = (kind.isNumeric || kind = .string) := by
    simp only [BinaryOp.isDefinedOn, hop]
  have hresult : op.resultKind kind = .bool := by
    simp only [BinaryOp.resultKind, hop]
  cases hleft with
  | int a | uint a | float32 a | float64 a | string a =>
      cases hright
      exact .operation hdefined hresult .bool (compareBy_onlyFaults hop a _)
  | _ => exact .undefined hdefined

theorem conforms_logic (hop : op.family = .logic) (hleft : left.OfKind kind)
    (hright : right.OfKind kind) : Conforms (op.operationKind kind) (evalLogic op left right) := by
  cases op with
  | and | or =>
      cases hleft with
      | bool a =>
          cases hright
          exact .value (.bool _)
      | _ => exact .refused
  | _ => cases hop

theorem conforms_bitwise (hop : op.family = .bitwise) (hleft : left.OfKind kind)
    (hright : right.OfKind kind) :
    Conforms (op.operationKind kind) (evalBitwise op left right) := by
  have hdefined : op.isDefinedOn kind = (kind = .int || kind = .uint) := by
    simp only [BinaryOp.isDefinedOn, hop]
  have hresult : op.resultKind kind = kind := by
    simp only [BinaryOp.resultKind, hop]
  cases hleft with
  | int a =>
      cases hright with
      | int b => exact .operation hdefined hresult .int (intBitwise_onlyFaults hop a b)
  | uint a =>
      cases hright with
      | uint b => exact .operation hdefined hresult .uint (uintBitwise_onlyFaults hop a b)
  | _ => exact .undefined hdefined

theorem evalFamily_conforms (hleft : left.OfKind kind) (hright : right.OfKind kind) :
    Conforms (op.operationKind kind) (evalFamily op.family op left right) := by
  cases hop : op.family with
  | arithmetic => exact conforms_arithmetic hop hleft hright
  | equality => exact conforms_equality hop hleft hright
  | ordering => exact conforms_ordering hop hleft hright
  | logic => exact conforms_logic hop hleft hright
  | bitwise => exact conforms_bitwise hop hleft hright

end Tables

/-! ## Operators between any operands -/

/-- The kinds of a pair of operands after an untyped `nil` has adapted. -/
def Kind.coerceNil (left right : Kind) : Kind × Kind :=
  if left = .nil ∧ right.isNilable then (right, right)
  else if right = .nil ∧ left.isNilable then (left, left)
  else (left, right)

def binaryKind (op : BinaryOp) (left right : Kind) : Except EvalError Kind :=
  let (left, right) := Kind.coerceNil left right
  if left = right then op.operationKind left
  else .error (.typeMismatch op.spelling left right)

section Operands

variable {op : BinaryOp} {leftKind rightKind : Kind} {left right : Value}

theorem coerceNil_ofKind (hleft : left.OfKind leftKind) (hright : right.OfKind rightKind) :
    (Value.coerceNil left right).1.OfKind (Kind.coerceNil leftKind rightKind).1 ∧
      (Value.coerceNil left right).2.OfKind (Kind.coerceNil leftKind rightKind).2 := by
  cases hleft <;> cases hright <;> exact ⟨by constructor, by constructor⟩

theorem evalBinary_conforms (hleft : left.OfKind leftKind) (hright : right.OfKind rightKind) :
    Conforms (binaryKind op leftKind rightKind) (evalBinary op left right) := by
  obtain ⟨hfirst, hsecond⟩ := coerceNil_ofKind hleft hright
  simp only [binaryKind, evalBinary]
  rw [hfirst.kind_eq, hsecond.kind_eq]
  split
  · rename_i hkinds
    rw [← hkinds] at hsecond
    exact evalFamily_conforms hfirst hsecond
  · exact .refused

end Operands

end FieldPredicate
