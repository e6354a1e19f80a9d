import FieldPredicate.Proofs.Eval.Payloads
import FieldPredicate.Value.Identity
import Mathlib.Logic.Function.Basic

/-!
# Evaluation does not look at identities

Operators only ask whether two identities are the same, and selectors not even that. So with other
identities throughout a table an expression has the value with those identities, as long as
different identities stay different. What has no payload is the same then, and so is every error.
-/

namespace FieldPredicate

variable {r : Identity → Identity}

/-! ## Operations -/

namespace Value

@[simp] theorem asBool_rename (op : String) (value : Value) :
    (value.rename r).asBool op = value.asBool op := by
  cases value <;> rfl

@[simp] theorem coerceNil_rename (left right : Value) :
    coerceNil (left.rename r) (right.rename r) =
      ((coerceNil left right).1.rename r, (coerceNil left right).2.rename r) := by
  have hnil : ∀ value : Value, ((nilOf? (value.rename r).kind).getD .nil) =
      ((nilOf? value.kind).getD .nil).rename r := by
    intro value
    rw [kind_rename]
    cases hnilable : value.kind.nilable? <;> simp [nilOf?, hnilable, rename]
  cases left with
  | nil => exact congrArg (·, right.rename r) (hnil right)
  | _ =>
      cases right with
      | nil => exact congrArg (_, ·) (hnil _)
      | _ => rfl

/-- Payloads are compared by identities alone. -/
theorem equal?_rename (hr : Function.Injective r) (left right : Value) :
    equal? (left.rename r) (right.rename r) = equal? left right := by
  cases left with
  | slice id _ | map id _ | pointer id _ | struct id _ _ =>
      cases right with
      | absent n => cases n <;> rfl
      | _ => simp [rename, equal?, hr.eq_iff]
  | absent n => cases n <;> cases right <;> rfl
  | _ => cases right <;> rfl

end Value

/-! ## Tables of operations -/

section Tables

variable {op : BinaryOp}

@[simp] theorem evalArithmetic_rename (left right : Value) :
    evalArithmetic op (left.rename r) (right.rename r) = evalArithmetic op left right := by
  cases left with
  | int | uint | float32 | float64 | string => cases right <;> rfl
  | _ => rfl

theorem evalEquality_rename (hr : Function.Injective r) (left right : Value) :
    evalEquality op (left.rename r) (right.rename r) = evalEquality op left right := by
  rw [evalEquality, evalEquality, Value.equal?_rename hr, Value.kind_rename]

@[simp] theorem evalOrdering_rename (left right : Value) :
    evalOrdering op (left.rename r) (right.rename r) = evalOrdering op left right := by
  cases left with
  | int | uint | float32 | float64 | string => cases right <;> rfl
  | _ => rfl

@[simp] theorem evalLogic_rename (left right : Value) :
    evalLogic op (left.rename r) (right.rename r) = evalLogic op left right := by
  rw [evalLogic, evalLogic, Value.asBool_rename, Value.asBool_rename]

@[simp] theorem evalBitwise_rename (left right : Value) :
    evalBitwise op (left.rename r) (right.rename r) = evalBitwise op left right := by
  cases left with
  | int | uint => cases right <;> rfl
  | _ => rfl

theorem evalFamily_rename (hr : Function.Injective r) (family : BinaryOp.Family)
    (left right : Value) :
    evalFamily family op (left.rename r) (right.rename r) = evalFamily family op left right := by
  cases family with
  | arithmetic => exact evalArithmetic_rename left right
  | equality => exact evalEquality_rename hr left right
  | ordering => exact evalOrdering_rename left right
  | logic => exact evalLogic_rename left right
  | bitwise => exact evalBitwise_rename left right

/-- No operator between operands looks at more of their identities than whether they are equal. -/
theorem evalBinary_rename (hr : Function.Injective r) (left right : Value) :
    evalBinary op (left.rename r) (right.rename r) = evalBinary op left right := by
  simp only [evalBinary, Value.coerceNil_rename, Value.kind_rename, evalFamily_rename hr]

/-- The value of an operation between operands has no payload. -/
theorem map_rename_evalBinary (left right : Value) :
    (evalBinary op left right).map (Value.rename r) = evalBinary op left right := by
  cases hvalue : evalBinary op left right with
  | error error => rfl
  | ok value =>
      have hplain : value.identity? = none := identity?_evalBinary hvalue
      exact congrArg Except.ok (Value.rename_of_identity? r hplain)

end Tables

@[simp] theorem evalUnary_rename (op : UnaryOp) (value : Value) :
    evalUnary op (value.rename r) = (evalUnary op value).map (Value.rename r) := by
  cases op with
  | negate =>
      cases value with
      | int n =>
          simp only [Value.rename, evalUnary]
          split <;> rfl
      | _ => rfl
  | identity => cases value <;> rfl
  | not => cases value <;> rfl
  | deref =>
      cases value with
      | absent n => cases n <;> rfl
      | _ => rfl

/-! ## Members -/

namespace Value

variable {object member : String}

@[simp] theorem field?_renameFields (fields : List (String × Value)) (name : String) :
    field? (renameFields r fields) name = (field? fields name).map (rename r) := by
  rw [renameFields_eq_map, field?, field?, List.find?_map, Option.map_map, Option.map_map]
  rfl

@[simp] theorem atKey?_renameEntries (entries : List (Value × Value)) (name : String) :
    atKey? (renameEntries r entries) name = (atKey? entries name).map (rename r) := by
  fun_induction atKey? entries name with
  | case1 => rfl
  | case2 value rest => simp [renameEntries, rename, atKey?]
  | case3 key value rest hkey ih => simp [renameEntries, rename, atKey?, hkey, ih]
  | case4 entry rest hkey ih =>
      obtain ⟨key, value⟩ := entry
      cases key with
      | string key => exact absurd rfl (hkey key value)
      | _ => exact ih

@[simp] theorem found_rename (found : Option Value) :
    select.found object member (found.map (rename r)) =
      (select.found object member found).map (rename r) := by
  cases found <;> rfl

@[simp] theorem select_rename (value : Value) :
    (value.rename r).select object member = (value.select object member).map (rename r) := by
  fun_induction select object member value with
  | case1 id target ih => exact ih
  | case2 => rfl
  | case3 id name fields =>
      rw [rename, select, field?_renameFields, found_rename]
  | case4 id entries =>
      rw [rename, select, atKey?_renameEntries, found_rename]
  | case5 => rfl
  | case6 value hpointer hnil hstruct hmap habsent =>
      -- Slices and values without a payload are left, which have no members.
      cases value with
      | pointer id target => exact absurd rfl (hpointer id target)
      | struct id name fields => exact absurd rfl (hstruct id name fields)
      | map id entries => exact absurd rfl (hmap id entries)
      | absent n =>
          cases n with
          | pointer => exact absurd rfl hnil
          | map => exact absurd rfl habsent
          | slice => rfl
      | _ => rfl

end Value

/-! ## Expressions -/

namespace SymbolTable

/-- The table with other identities in all of its values. -/
def rename (r : Identity → Identity) (table : SymbolTable) : SymbolTable where
  bindings := table.bindings.map fun binding => (binding.1, binding.2.rename r)
  sorted := List.pairwise_map.mpr table.sorted

/-- The second table binds the same names to the same values with other identities. -/
def Renamed (r : Identity → Identity) (table other : SymbolTable) : Prop :=
  ∀ name, other.get? name = (table.get? name).map (Value.rename r)

theorem renamed_rename (r : Identity → Identity) (table : SymbolTable) :
    table.Renamed r (table.rename r) := by
  intro name
  rw [get?, get?, rename, List.find?_map, Option.map_map, Option.map_map]
  rfl

end SymbolTable

section Evaluation

variable {table other : SymbolTable}

theorem evalSymbol_renamed (h : table.Renamed r other) (name : String) :
    evalSymbol other name = (evalSymbol table name).map (Value.rename r) := by
  rw [evalSymbol, evalSymbol, h name]
  cases table.get? name with
  | some value => rfl
  | none =>
      by_cases hnil : name = "nil"
      · rw [Option.map_none, if_pos hnil]
        rfl
      · simp only [Option.map_none, if_neg hnil]
        rfl

/-- On a table that binds the same names to values with other identities, evaluation has the
outcome with these identities. -/
theorem eval_renamed (hr : Function.Injective r) (h : table.Renamed r other) (e : Expr) :
    eval other e = (eval table e).map (Value.rename r) := by
  induction e with
  | integer text =>
      rw [eval, eval]
      cases Literal.decode text <;> rfl
  | string | bool => rfl
  | symbol name => exact evalSymbol_renamed h name
  | selector object member =>
      rw [eval, eval, evalSelector, evalSelector, evalSymbol_renamed h object]
      cases evalSymbol table object with
      | error error => rfl
      | ok value => exact Value.select_rename value
  | unary op operand ih =>
      rw [eval_unary, eval_unary, ih]
      cases eval table operand with
      | error error => rfl
      | ok value => exact evalUnary_rename op value
  | binary left op right ihleft ihright =>
      rw [eval_binary, eval_binary, ihleft, ihright]
      cases eval table left with
      | error error => rfl
      | ok a =>
          cases eval table right with
          | error error => rfl
          | ok b =>
              apply (evalBinary_rename hr a b).trans
              exact (map_rename_evalBinary a b).symm

end Evaluation

end FieldPredicate
