import FieldPredicate.Eval

/-!
# The first part that fails decides

The parts of an expression are listed in the order in which they are evaluated. An operation takes
over the error of its first operand that fails, so the first error along the list is the error of
the whole expression, and the whole has a value only if every part has one.
-/

namespace FieldPredicate

/-! ## The parts in their order -/

namespace Expr

/-- The subexpressions in post-order, those of a left operand before those of the right one. One
that occurs twice is listed twice. -/
def parts : Expr → List Expr
  | .unary op operand => operand.parts ++ [.unary op operand]
  | .binary left op right => left.parts ++ right.parts ++ [.binary left op right]
  | e => [e]

theorem self_mem_parts (e : Expr) : e ∈ e.parts := by
  cases e <;> simp [parts]

theorem operands_mem_parts {e left right : Expr} {op : BinaryOp}
    (h : .binary left op right ∈ e.parts) : left ∈ e.parts ∧ right ∈ e.parts := by
  induction e with
  | unary op' operand ih =>
      simp only [parts, List.mem_append, List.mem_singleton, reduceCtorEq, or_false] at h ⊢
      exact ⟨.inl (ih h).1, .inl (ih h).2⟩
  | binary l op' r ihl ihr =>
      simp only [parts, List.mem_append, List.mem_singleton] at h ⊢
      -- The operation lies in the left operand, in the right one, or is the whole expression.
      rcases h with (h | h) | h
      · exact ⟨.inl (.inl (ihl h).1), .inl (.inl (ihl h).2)⟩
      · exact ⟨.inl (.inr (ihr h).1), .inl (.inr (ihr h).2)⟩
      · cases h
        exact ⟨.inl (.inl left.self_mem_parts), .inl (.inr right.self_mem_parts)⟩
  | _ => simp [parts] at h

end Expr

/-! ## Errors along the parts -/

section Errors

variable {table : SymbolTable} {error : EvalError}

def HasValue (table : SymbolTable) (e : Expr) : Prop :=
  ∃ value, eval table e = .ok value

def evalError? (table : SymbolTable) (e : Expr) : Option EvalError :=
  match eval table e with
  | .ok _ => none
  | .error error => some error

theorem evalError?_eq_none_iff {e : Expr} : evalError? table e = none ↔ HasValue table e := by
  unfold evalError? HasValue
  cases eval table e <;> simp

theorem evalError?_eq_some_iff {e : Expr} :
    evalError? table e = some error ↔ eval table e = .error error := by
  unfold evalError?
  cases eval table e <;> simp

theorem or_evalError?_unary (op : UnaryOp) (operand : Expr) :
    (evalError? table operand).or (evalError? table (.unary op operand)) =
      evalError? table (.unary op operand) := by
  simp only [evalError?, eval]
  cases eval table operand <;> rfl

theorem or_evalError?_binary (left : Expr) (op : BinaryOp) (right : Expr) :
    ((evalError? table left).or (evalError? table right)).or
        (evalError? table (.binary left op right)) =
      evalError? table (.binary left op right) := by
  simp only [evalError?, eval]
  cases eval table left with
  | error error => rfl
  | ok a => cases eval table right <;> rfl

/-- The first error along the parts of an expression is its own. -/
theorem findSome?_parts (table : SymbolTable) (e : Expr) :
    e.parts.findSome? (evalError? table) = evalError? table e := by
  induction e with
  | unary op operand ih =>
      rw [Expr.parts, List.findSome?_append, ih, List.findSome?_singleton,
        or_evalError?_unary]
  | binary left op right ihleft ihright =>
      rw [Expr.parts, List.findSome?_append, List.findSome?_append, ihleft, ihright,
        List.findSome?_singleton, or_evalError?_binary]
  | _ => exact List.findSome?_singleton

theorem hasValue_iff_parts (table : SymbolTable) (e : Expr) :
    HasValue table e ↔ ∀ part ∈ e.parts, HasValue table part := by
  rw [← evalError?_eq_none_iff, ← findSome?_parts, List.findSome?_eq_none_iff]
  simp only [evalError?_eq_none_iff]

theorem eval_eq_error_iff_parts (table : SymbolTable) (e : Expr) (error : EvalError) :
    eval table e = .error error ↔
      ∃ front part rest, e.parts = front ++ part :: rest ∧
        (∀ earlier ∈ front, HasValue table earlier) ∧ eval table part = .error error := by
  rw [← evalError?_eq_some_iff, ← findSome?_parts, List.findSome?_eq_some_iff]
  simp only [evalError?_eq_none_iff, evalError?_eq_some_iff]
  constructor
  · rintro ⟨front, part, rest, hparts, hpart, hfront⟩
    exact ⟨front, part, rest, hparts, hfront, hpart⟩
  · rintro ⟨front, part, rest, hparts, hfront, hpart⟩
    exact ⟨front, part, rest, hparts, hpart, hfront⟩

end Errors

/-- An expression has a value only if all its parts have one, the operands of each operation
included. Otherwise its error is the error of its first part without a value. -/
theorem eval_reports_first_failing_part (table : SymbolTable) (expr : Expr) :
    (HasValue table expr ↔ ∀ part ∈ expr.parts, HasValue table part) ∧
    (∀ left op right, .binary left op right ∈ expr.parts → HasValue table expr →
      HasValue table left ∧ HasValue table right) ∧
    ∀ error, eval table expr = .error error ↔
      ∃ front part rest, expr.parts = front ++ part :: rest ∧
        (∀ earlier ∈ front, HasValue table earlier) ∧ eval table part = .error error := by
  have hparts := hasValue_iff_parts table expr
  refine ⟨hparts, ?_, eval_eq_error_iff_parts table expr⟩
  intro left op right hmem hvalue
  obtain ⟨hleft, hright⟩ := Expr.operands_mem_parts hmem
  have hall := hparts.mp hvalue
  exact ⟨hall left hleft, hall right hright⟩

/-- A true left operand of `||` does not save the quotient on its right, whose error comes before
the unbound name behind it. -/
theorem eval_true_or_quotient_by_zero :
    eval .empty (.binary (.bool true) .or
        (.binary (.binary (.integer "1") .div (.integer "0")) .equal (.symbol "x"))) =
      .error .divisionByZero ∧
    ¬ HasValue .empty (.binary (.bool true) .or
        (.binary (.binary (.integer "1") .div (.integer "0")) .equal (.symbol "x"))) := by
  obtain ⟨hvalue, hoperands, herror⟩ := eval_reports_first_failing_part .empty
    (.binary (.bool true) .or
      (.binary (.binary (.integer "1") .div (.integer "0")) .equal (.symbol "x")))
  constructor
  · refine (herror .divisionByZero).mpr
      ⟨[.bool true, .integer "1", .integer "0"], .binary (.integer "1") .div (.integer "0"), _,
        rfl, ?_, rfl⟩
    intro earlier hmem
    simp only [List.mem_cons, List.not_mem_nil, or_false] at hmem
    rcases hmem with rfl | rfl | rfl
    · exact ⟨_, rfl⟩
    · exact ⟨_, rfl⟩
    · exact ⟨_, rfl⟩
  · intro h
    obtain ⟨-, b, hright⟩ := hoperands _ _ _ (Expr.self_mem_parts _) h
    cases hright

end FieldPredicate
