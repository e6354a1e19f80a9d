import FieldPredicate.Eval
import FieldPredicate.Proofs.Eval.OperatorKinds

/-!
# Operators reach the table that holds them

An operation on two values has one of three outcomes, and the operator and the kinds of the values
choose which. Kinds that still differ once an untyped `nil` has adapted are refused first, then a
kind that the operator is not defined on. Otherwise there is a value of a known kind or a fault. So
no table ever meets an operator that it does not hold, and no expression has an error that speaks
of one.
-/

namespace FieldPredicate

/-! ## Operators on kinds they are not defined on -/

section Tables

variable {op : BinaryOp} {kind : Kind} {left right : Value}

theorem evalArithmetic_of_undefined (hop : op.family = .arithmetic) (hleft : left.OfKind kind)
    (hright : right.OfKind kind) (h : op.isDefinedOn kind = false) :
    evalArithmetic op left right = .error (.invalidType op.spelling kind) := by
  simp only [BinaryOp.isDefinedOn, hop] at h
  cases hleft with
  | int | uint | float32 | float64 => cases h
  | string a =>
      cases hright with
      | string b =>
          have hadd : op ≠ .add := by
            rintro rfl
            cases h
          rw [evalArithmetic, if_neg hadd]
  | _ => rfl

theorem evalOrdering_of_undefined (hop : op.family = .ordering) (hleft : left.OfKind kind)
    (h : op.isDefinedOn kind = false) :
    evalOrdering op left right = .error (.invalidType op.spelling kind) := by
  simp only [BinaryOp.isDefinedOn, hop] at h
  cases hleft with
  | int | uint | float32 | float64 | string => cases h
  | _ => rfl

theorem evalLogic_of_undefined (hop : op.family = .logic) (hleft : left.OfKind kind)
    (h : op.isDefinedOn kind = false) :
    evalLogic op left right = .error (.invalidType op.spelling kind) := by
  simp only [BinaryOp.isDefinedOn, hop] at h
  cases hleft with
  | bool => cases h
  | _ => rfl

theorem evalBitwise_of_undefined (hop : op.family = .bitwise) (hleft : left.OfKind kind)
    (h : op.isDefinedOn kind = false) :
    evalBitwise op left right = .error (.invalidType op.spelling kind) := by
  simp only [BinaryOp.isDefinedOn, hop] at h
  cases hleft with
  | int | uint => cases h
  | _ => rfl

theorem evalFamily_of_undefined (hleft : left.OfKind kind) (hright : right.OfKind kind)
    (h : op.isDefinedOn kind = false) :
    evalFamily op.family op left right = .error (.invalidType op.spelling kind) := by
  cases hop : op.family with
  | arithmetic => exact evalArithmetic_of_undefined hop hleft hright h
  | equality => simp [BinaryOp.isDefinedOn, hop] at h
  | ordering => exact evalOrdering_of_undefined hop hleft h
  | logic => exact evalLogic_of_undefined hop hleft h
  | bitwise => exact evalBitwise_of_undefined hop hleft h

end Tables

/-! ## Outcomes by kinds -/

/-- The outcomes of an operator, by the kinds of its operands after an untyped `nil` has adapted.
The kinds choose between the first two and the last two. -/
inductive Dispatched (op : BinaryOp) : Kind × Kind → Except EvalError Value → Prop
  | mismatch {first second : Kind} :
      first ≠ second →
      Dispatched op (first, second) (.error (.typeMismatch op.spelling first second))
  | undefined {kind : Kind} :
      op.isDefinedOn kind = false →
      Dispatched op (kind, kind) (.error (.invalidType op.spelling kind))
  | value {kind : Kind} {value : Value} :
      op.isDefinedOn kind = true → value.kind = op.resultKind kind →
      Dispatched op (kind, kind) (.ok value)
  | fault {kind : Kind} {error : EvalError} :
      op.isDefinedOn kind = true → error.isFault = true →
      Dispatched op (kind, kind) (.error error)

section Outcomes

variable {op : BinaryOp} {kind : Kind} {left right : Value}

theorem evalFamily_dispatched (hleft : left.OfKind kind) (hright : right.OfKind kind) :
    Dispatched op (kind, kind) (evalFamily op.family op left right) := by
  cases hdefined : op.isDefinedOn kind with
  | false =>
      rw [evalFamily_of_undefined hleft hright hdefined]
      exact .undefined hdefined
  | true =>
      have hconforms : Conforms (op.operationKind kind) (evalFamily op.family op left right) :=
        evalFamily_conforms hleft hright
      rw [BinaryOp.operationKind, if_pos hdefined] at hconforms
      generalize evalFamily op.family op left right = result at hconforms
      cases hconforms with
      | value hvalue => exact .value hdefined hvalue.kind_eq
      | fault hfault => exact .fault hdefined hfault

theorem evalBinary_dispatched (op : BinaryOp) (left right : Value) :
    Dispatched op (Kind.coerceNil left.kind right.kind) (evalBinary op left right) := by
  obtain ⟨hfirst, hsecond⟩ := coerceNil_ofKind left.ofKind right.ofKind
  generalize Kind.coerceNil left.kind right.kind = kinds at hfirst hsecond ⊢
  obtain ⟨first, second⟩ := kinds
  simp only [evalBinary, hfirst.kind_eq, hsecond.kind_eq]
  split
  · rename_i hsame
    subst hsame
    exact evalFamily_dispatched hfirst hsecond
  · rename_i hne
    exact .mismatch hne

end Outcomes

namespace Dispatched

variable {op : BinaryOp} {kinds : Kind × Kind} {result : Except EvalError Value}

theorem eq_typeMismatch_iff (h : Dispatched op kinds result) (spelling : String)
    (first second : Kind) :
    result = .error (.typeMismatch spelling first second) ↔
      spelling = op.spelling ∧ kinds = (first, second) ∧ first ≠ second := by
  constructor
  · rintro rfl
    cases h with
    | mismatch hne => exact ⟨rfl, rfl, hne⟩
    | fault _ hfault => cases hfault
  · rintro ⟨rfl, rfl, hne⟩
    cases h with
    | mismatch => rfl
    | undefined | value | fault => exact absurd rfl hne

theorem eq_invalidType_iff (h : Dispatched op kinds result) (spelling : String) (kind : Kind) :
    result = .error (.invalidType spelling kind) ↔
      spelling = op.spelling ∧ kinds = (kind, kind) ∧ op.isDefinedOn kind = false := by
  constructor
  · rintro rfl
    cases h with
    | undefined hundefined => exact ⟨rfl, rfl, hundefined⟩
    | fault _ hfault => cases hfault
  · rintro ⟨rfl, rfl, hundefined⟩
    cases h with
    | mismatch hne => exact absurd rfl hne
    | undefined => rfl
    | value hdefined | fault hdefined =>
        rw [hundefined] at hdefined
        cases hdefined

theorem exists_value_or_fault {kind : Kind} (h : Dispatched op (kind, kind) result)
    (hdefined : op.isDefinedOn kind = true) :
    (∃ value, result = .ok value ∧ value.kind = op.resultKind kind) ∨
      ∃ error, result = .error error ∧ error.isFault = true := by
  cases h with
  | mismatch hne => exact absurd rfl hne
  | undefined hundefined =>
      rw [hundefined] at hdefined
      cases hdefined
  | value _ hkind => exact .inl ⟨_, rfl, hkind⟩
  | fault _ hfault => exact .inr ⟨_, rfl, hfault⟩

end Dispatched

/-! ## Errors of expressions -/

/-- The errors that an expression can have. The others come of asking for a verdict, and of handing
an operator to a table that does not hold it. -/
def EvalError.isOfExpressions : EvalError → Bool
  | .notBoolean _ | .misrouted _ => false
  | _ => true

def FailsWithin {α : Type} (allowed : EvalError → Bool) (result : Except EvalError α) : Prop :=
  ∀ error, result = .error error → allowed error = true

namespace FailsWithin

variable {α β : Type} {allowed : EvalError → Bool} {result : Except EvalError α}

theorem ok (x : α) : FailsWithin allowed (.ok x : Except EvalError α) := by
  intro error h
  cases h

theorem error {error : EvalError} (h : allowed error = true) :
    FailsWithin allowed (.error error : Except EvalError α) := by
  intro other heq
  cases heq
  exact h

theorem bind {f : α → Except EvalError β} (h : FailsWithin allowed result)
    (hf : ∀ x, FailsWithin allowed (f x)) : FailsWithin allowed (result.bind f) := by
  cases result with
  | ok x => exact hf x
  | error cause => exact error (h cause rfl)

end FailsWithin

theorem EvalError.isOfExpressions_of_isFault {error : EvalError} (h : error.isFault = true) :
    error.isOfExpressions = true := by
  cases error with
  | notBoolean | misrouted => cases h
  | _ => rfl

section Expressions

open EvalError (isOfExpressions)

theorem Dispatched.failsWithin {op : BinaryOp} {kinds : Kind × Kind}
    {result : Except EvalError Value} (h : Dispatched op kinds result) :
    FailsWithin isOfExpressions result := by
  cases h with
  | mismatch | undefined => exact .error rfl
  | value => exact .ok _
  | fault _ hfault => exact .error (EvalError.isOfExpressions_of_isFault hfault)

theorem Conforms.failsWithin {expected : Except EvalError Kind} {result : Except EvalError Value}
    (h : Conforms expected result) (hexpected : FailsWithin isOfExpressions expected) :
    FailsWithin isOfExpressions result := by
  cases h with
  | value => exact .ok _
  | fault hfault => exact .error (EvalError.isOfExpressions_of_isFault hfault)
  | refused => exact .error (hexpected _ rfl)

theorem unaryKind_failsWithin (op : UnaryOp) (kind : Kind) :
    FailsWithin isOfExpressions (unaryKind op kind) := by
  unfold unaryKind
  split
  · exact .ok _
  · exact .error rfl

theorem evalUnary_failsWithin (op : UnaryOp) (value : Value) :
    FailsWithin isOfExpressions (evalUnary op value) := by
  by_cases hop : op = .deref
  · subst hop
    cases value with
    | pointer id target => exact .ok target
    | absent nilable => cases nilable <;> exact .error rfl
    | _ => exact .error rfl
  · exact (evalUnary_conforms hop value.ofKind).failsWithin (unaryKind_failsWithin op value.kind)

theorem decode_failsWithin (text : String) :
    FailsWithin isOfExpressions (Literal.decode text) := by
  simp only [Literal.decode]
  split
  · exact .ok _
  · exact .error rfl

theorem evalSymbol_failsWithin (table : SymbolTable) (name : String) :
    FailsWithin isOfExpressions (evalSymbol table name) := by
  unfold evalSymbol
  split
  · exact .ok _
  · split
    · exact .ok _
    · exact .error rfl

theorem found_failsWithin (object member : String) (found : Option Value) :
    FailsWithin isOfExpressions (Value.select.found object member found) := by
  cases found with
  | none => exact .error rfl
  | some value => exact .ok value

theorem select_failsWithin (object member : String) :
    ∀ value : Value, FailsWithin isOfExpressions (value.select object member)
  | .pointer _ target => select_failsWithin object member target
  | .struct .. | .map .. | .absent .map => found_failsWithin object member _
  | .absent .pointer | .absent .slice | .nil | .bool _ | .int _ | .uint _ | .float32 _
  | .float64 _ | .string _ | .slice .. => .error rfl

theorem eval_failsWithin (table : SymbolTable) (e : Expr) :
    FailsWithin isOfExpressions (eval table e) := by
  induction e with
  | integer text => exact (decode_failsWithin text).bind fun n => .ok (Value.int n)
  | string value => exact .ok _
  | bool value => exact .ok _
  | symbol name => exact evalSymbol_failsWithin table name
  | selector object member =>
      rw [eval_selector]
      exact (evalSymbol_failsWithin table object).bind (select_failsWithin object member)
  | unary op operand ih =>
      rw [eval_unary]
      exact ih.bind (evalUnary_failsWithin op)
  | binary left op right ihleft ihright =>
      rw [eval_binary]
      exact ihleft.bind fun a => ihright.bind fun b => (evalBinary_dispatched op a b).failsWithin

end Expressions

/-- An operation is refused for the kinds of its operands exactly if these differ after an untyped
`nil` has adapted, and for their common kind exactly if the operator is not defined on it. Otherwise
it has a value of a kind that the operator and the common kind determine, or a fault. Neither an
operation nor an expression comes to a table that does not hold its operator. -/
theorem evalBinary_outcome_by_kinds :
    (∀ (op : BinaryOp) (left right : Value),
      (∀ spelling first second,
        evalBinary op left right = .error (.typeMismatch spelling first second) ↔
          spelling = op.spelling ∧ Kind.coerceNil left.kind right.kind = (first, second) ∧
            first ≠ second) ∧
      (∀ spelling kind,
        evalBinary op left right = .error (.invalidType spelling kind) ↔
          spelling = op.spelling ∧ Kind.coerceNil left.kind right.kind = (kind, kind) ∧
            op.isDefinedOn kind = false) ∧
      (∀ kind, Kind.coerceNil left.kind right.kind = (kind, kind) → op.isDefinedOn kind = true →
        (∃ value, evalBinary op left right = .ok value ∧ value.kind = op.resultKind kind) ∨
          ∃ error, evalBinary op left right = .error error ∧ error.isFault = true) ∧
      ∀ which, evalBinary op left right ≠ .error (.misrouted which)) ∧
    ∀ (table : SymbolTable) (e : Expr) which, eval table e ≠ .error (.misrouted which) := by
  constructor
  · intro op left right
    have hdispatched := evalBinary_dispatched op left right
    refine ⟨hdispatched.eq_typeMismatch_iff, hdispatched.eq_invalidType_iff, ?_, ?_⟩
    · intro kind hkinds hdefined
      rw [hkinds] at hdispatched
      exact hdispatched.exists_value_or_fault hdefined
    · intro which h
      cases hdispatched.failsWithin _ h
  · intro table e which h
    cases eval_failsWithin table e _ h

/-- A `nil` adapts to an absent map, which equality is defined on. Ordering is not defined on
booleans, and an integer is nothing that `nil` adapts to. -/
theorem evalBinary_outcome_by_adapted_kinds :
    Kind.coerceNil .map .nil = (.map, .map) ∧ BinaryOp.equal.isDefinedOn .map = true ∧
    (∃ value, evalBinary .equal (.absent .map) .nil = .ok value ∧ value.kind = .bool) ∧
    evalBinary .less (.bool true) (.bool false) = .error (.invalidType "<" .bool) ∧
    evalBinary .shiftLeft .nil (.int 1) = .error (.typeMismatch "<<" .nil .int) := by
  obtain ⟨-, -, hdefined, -⟩ := evalBinary_outcome_by_kinds.1 .equal (.absent .map) .nil
  obtain ⟨-, hundefined, -⟩ := evalBinary_outcome_by_kinds.1 .less (.bool true) (.bool false)
  obtain ⟨hmismatch, -⟩ := evalBinary_outcome_by_kinds.1 .shiftLeft .nil (.int 1)
  refine ⟨rfl, rfl, ?_, ?_, ?_⟩
  · rcases hdefined .map rfl rfl with hvalue | ⟨error, herror, -⟩
    · exact hvalue
    · cases herror
  · exact (hundefined "<" .bool).mpr ⟨rfl, rfl, rfl⟩
  · exact (hmismatch "<<" .nil .int).mpr ⟨rfl, rfl, by decide⟩

end FieldPredicate
