import FieldPredicate.Eval
import FieldPredicate.Proofs.Eval.OperatorKinds
import FieldPredicate.Proofs.SymbolTable.LastBinding

/-!
# Kinds decide kind errors

An expression without members and dereferences has a kind, or an error, that only the kinds of its
symbols determine. Every evaluation comes to a value of that kind, to that error or to a fault, so
two tables with the same kinds can differ in nothing else.
-/

namespace FieldPredicate

/-! ## The kind of an expression -/

/-- The expression looks at no member and no target of a pointer. -/
def Expr.Shallow : Expr → Prop
  | .integer _ | .string _ | .bool _ | .symbol _ => True
  | .selector _ _ => False
  | .unary op operand => op ≠ .deref ∧ operand.Shallow
  | .binary left _ right => left.Shallow ∧ right.Shallow

def symbolKind (kind? : String → Option Kind) (name : String) : Except EvalError Kind :=
  match kind? name with
  | some kind => .ok kind
  | none => if name = "nil" then .ok .nil else .error (.symbolNotFound name)

/-- The kind or the error that the kinds of the symbols give an expression. -/
inductive HasKind (kind? : String → Option Kind) : Expr → Except EvalError Kind → Prop
  | integer (text : String) :
      HasKind kind? (.integer text) ((Literal.decode text).map fun _ => .int)
  | string (value : String) : HasKind kind? (.string value) (.ok .string)
  | bool (value : Bool) : HasKind kind? (.bool value) (.ok .bool)
  | symbol (name : String) : HasKind kind? (.symbol name) (symbolKind kind? name)
  | unary {op : UnaryOp} {operand : Expr} {expected : Except EvalError Kind} :
      op ≠ .deref → HasKind kind? operand expected →
      HasKind kind? (.unary op operand) (expected.bind (unaryKind op))
  | binary {op : BinaryOp} {left right : Expr} {first second : Except EvalError Kind} :
      HasKind kind? left first → HasKind kind? right second →
      HasKind kind? (.binary left op right)
        (first.bind fun leftKind => second.bind (binaryKind op leftKind))

theorem Expr.Shallow.exists_hasKind {expr : Expr} (h : expr.Shallow)
    (kind? : String → Option Kind) : ∃ expected, HasKind kind? expr expected := by
  induction expr with
  | integer text => exact ⟨_, .integer text⟩
  | string value => exact ⟨_, .string value⟩
  | bool value => exact ⟨_, .bool value⟩
  | symbol name => exact ⟨_, .symbol name⟩
  | selector object member => exact h.elim
  | unary op operand ih =>
      obtain ⟨expected, hoperand⟩ := ih h.2
      exact ⟨_, .unary h.1 hoperand⟩
  | binary left op right ihleft ihright =>
      obtain ⟨first, hfirst⟩ := ihleft h.1
      obtain ⟨second, hsecond⟩ := ihright h.2
      exact ⟨_, .binary hfirst hsecond⟩

/-! ## Evaluation follows the kind -/

section Evaluation

variable {table : SymbolTable} {expected : Except EvalError Kind}
  {result : Except EvalError Value}

theorem Conforms.bind (h : Conforms expected result)
    {foretell : Kind → Except EvalError Kind} {step : Value → Except EvalError Value}
    (hstep : ∀ kind value, value.OfKind kind → Conforms (foretell kind) (step value)) :
    Conforms (expected.bind foretell) (result.bind step) := by
  cases h with
  | value hvalue => exact hstep _ _ hvalue
  | fault hfault => exact .fault hfault
  | refused => exact .refused

def SymbolTable.kind? (table : SymbolTable) (name : String) : Option Kind :=
  (table.get? name).map Value.kind

theorem evalSymbol_conforms (name : String) :
    Conforms (symbolKind table.kind? name) (evalSymbol table name) := by
  unfold symbolKind evalSymbol SymbolTable.kind?
  cases table.get? name with
  | some value => exact .value value.ofKind
  | none =>
      by_cases hnil : name = "nil"
      · simp only [Option.map_none, if_pos hnil]
        exact .value .nil
      · simp only [Option.map_none, if_neg hnil]
        exact .refused

theorem HasKind.conforms {expr : Expr} (h : HasKind table.kind? expr expected) :
    Conforms expected (eval table expr) := by
  induction h with
  | integer text =>
      rw [eval]
      cases Literal.decode text with
      | ok n => exact .value (.int n)
      | error error => exact .refused
  | string value => exact .value (.string value)
  | bool value => exact .value (.bool value)
  | symbol name => exact evalSymbol_conforms name
  | unary hop _ ih =>
      rw [eval_unary]
      apply ih.bind
      intro kind value hvalue
      exact evalUnary_conforms hop hvalue
  | binary _ _ ihleft ihright =>
      rw [eval_binary]
      apply ihleft.bind
      intro leftKind a ha
      apply ihright.bind
      intro rightKind b hb
      exact evalBinary_conforms ha hb

end Evaluation

/-! ## Two tables with the same kinds -/

section Twice

variable {expected : Except EvalError Kind} {value : Value} {error : EvalError}
  {result : Except EvalError Value}

theorem Conforms.of_ok (h : Conforms expected (.ok value)) : expected = .ok value.kind := by
  cases h with
  | value hvalue => rw [hvalue.kind_eq]

theorem Conforms.of_error (h : Conforms expected (.error error)) (hfault : error.isFault = false) :
    expected = .error error := by
  cases h with
  | fault hisFault => simp [hfault] at hisFault
  | refused => rfl

theorem Conforms.exists_error (h : Conforms (.error error) result) :
    ∃ other, result = .error other ∧ (other = error ∨ other.isFault = true) := by
  cases h with
  | fault hfault => exact ⟨_, rfl, .inr hfault⟩
  | refused => exact ⟨_, rfl, .inl rfl⟩

end Twice

/-- Two tables that bind the same names to the same kinds give a shallow expression values of one
kind. Where one of them gives an error other than a fault, the other one gives the same error or
a fault. -/
theorem eval_follows_kinds {first second : SymbolTable}
    (hkinds : ∀ name, first.kind? name = second.kind? name)
    {expr : Expr} (hshallow : expr.Shallow) :
    (∀ a b, eval first expr = .ok a → eval second expr = .ok b → a.kind = b.kind) ∧
    (∀ error, eval first expr = .error error → error.isFault = false →
      ∃ other, eval second expr = .error other ∧ (other = error ∨ other.isFault = true)) ∧
    ∀ error, eval second expr = .error error → error.isFault = false →
      ∃ other, eval first expr = .error other ∧ (other = error ∨ other.isFault = true) := by
  obtain ⟨expected, hfirst⟩ := hshallow.exists_hasKind first.kind?
  have hsecond : HasKind second.kind? expr expected := by
    rw [← funext hkinds]
    exact hfirst
  have hfirst := hfirst.conforms
  have hsecond := hsecond.conforms
  refine ⟨?_, ?_, ?_⟩
  · intro a b ha hb
    rw [ha] at hfirst
    rw [hb] at hsecond
    have hkind := hfirst.of_ok.symm.trans hsecond.of_ok
    exact Except.ok.inj hkind
  · intro error herror hfault
    rw [herror] at hfirst
    rw [hfirst.of_error hfault] at hsecond
    exact hsecond.exists_error
  · intro error herror hfault
    rw [herror] at hsecond
    rw [hsecond.of_error hfault] at hfirst
    exact hfirst.exists_error

/-- An integer is not added to a boolean, whatever the integer. Where it comes of a division by
zero, that comes first. -/
theorem eval_quotient_plus_bool :
    eval (.ofList [("x", .int 5)])
        (.binary (.binary (.integer "1") .div (.symbol "x")) .add (.bool true)) =
      .error (.typeMismatch "+" .int .bool) ∧
    ∃ error, eval (.ofList [("x", .int 0)])
        (.binary (.binary (.integer "1") .div (.symbol "x")) .add (.bool true)) = .error error ∧
      (error = .typeMismatch "+" .int .bool ∨ error.isFault = true) := by
  have hkinds : ∀ name, (SymbolTable.ofList [("x", .int 5)]).kind? name =
      (SymbolTable.ofList [("x", .int 0)]).kind? name := by
    intro name
    by_cases hname : "x" = name
    · subst hname
      rfl
    · simp [SymbolTable.kind?, SymbolTable.last?_cons, hname]
  have hshallow :
      (Expr.binary (.binary (.integer "1") .div (.symbol "x")) .add (.bool true)).Shallow := by
    simp [Expr.Shallow]
  have hmismatch : eval (.ofList [("x", .int 5)])
      (.binary (.binary (.integer "1") .div (.symbol "x")) .add (.bool true)) =
        .error (.typeMismatch "+" .int .bool) := by
    rfl
  obtain ⟨-, hother, -⟩ := eval_follows_kinds hkinds hshallow
  exact ⟨hmismatch, hother _ hmismatch rfl⟩

end FieldPredicate
