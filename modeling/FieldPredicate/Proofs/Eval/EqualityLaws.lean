import FieldPredicate.Eval
import FieldPredicate.Proofs.Eval.OperatorKinds

/-!
# The laws of equality

Equality answers for any two values that have one kind once an untyped `nil` has adapted. `Alike`
says when the answer is true: for equal scalars, for two handles to one payload, and for absent
payloads of one kind and `nil`. Apart from floats, this is symmetric and reflexive. It is transitive
but for `nil`, which is alike to absent payloads of different kinds, and these cannot be compared.
-/

namespace FieldPredicate

def Kind.isFloat : Kind → Bool
  | .float32 | .float64 => true
  | _ => false

namespace Value

/-! ## Values that are alike -/

/-- The values of which `==` is true. -/
inductive Alike : Value → Value → Prop
  | plain {value : Value} : value.identity? = none → value.kind.isFloat = false → Alike value value
  | float32 {x y : Float32} : (x == y) = true → Alike (.float32 x) (.float32 y)
  | float64 {x y : Float} : (x == y) = true → Alike (.float64 x) (.float64 y)
  /-- Two handles to one payload. -/
  | shared {left right : Value} {id : Identity} : left.kind = right.kind →
      left.identity? = some id → right.identity? = some id → Alike left right
  | nilAbsent (n : Nilable) : Alike .nil (.absent n)
  | absentNil (n : Nilable) : Alike (.absent n) .nil

section Alike

variable {a b c : Value}

theorem Alike.refl (h : a.kind.isFloat = false) : Alike a a := by
  cases hid : a.identity? with
  | none => exact .plain hid h
  | some id => exact .shared rfl hid hid

theorem Alike.symm (ha : a.kind.isFloat = false) (h : Alike a b) : Alike b a := by
  cases h with
  | plain hid => exact .plain hid ha
  | float32 | float64 => cases ha
  | shared hkind hleft hright => exact .shared hkind.symm hright hleft
  | nilAbsent n => exact .absentNil n
  | absentNil n => exact .nilAbsent n

theorem Alike.isFloat_eq (h : Alike a b) : a.kind.isFloat = b.kind.isFloat := by
  cases h with
  | shared hkind => rw [hkind]
  | nilAbsent n | absentNil n => cases n <;> rfl
  | _ => rfl

/-- What is alike to one value is alike, unless `nil` stands between absent payloads. -/
theorem Alike.trans (ha : a.kind.isFloat = false) (hab : Alike a b) (hbc : Alike b c) :
    Alike a c ∨ b = .nil ∧ ∃ m n, m ≠ n ∧ a = .absent m ∧ c = .absent n := by
  cases hab with
  | plain => exact .inl hbc
  | float32 | float64 => cases ha
  | shared hkind hleft hright =>
      cases hbc with
      | plain hid =>
          rw [hid] at hright
          cases hright
      | shared hkind' hleft' hright' =>
          rw [hright] at hleft'
          rw [← hleft'] at hright'
          exact .inl (.shared (hkind.trans hkind') hleft hright')
      | _ => cases hright
  | nilAbsent n =>
      cases hbc with
      | plain => exact .inl (.nilAbsent n)
      | shared _ hid => cases hid
      | absentNil => exact .inl (.plain rfl rfl)
  | absentNil m =>
      cases hbc with
      | plain => exact .inl (.absentNil m)
      | shared _ hid => cases hid
      | nilAbsent n =>
          by_cases hmn : m = n
          · subst hmn
            exact .inl (.plain rfl ha)
          · exact .inr ⟨rfl, m, n, hmn, rfl, rfl⟩

end Alike

/-! ## What equality compares -/

/-- The answer of `==`, if the values can be compared. -/
def comparison? (left right : Value) : Option Bool :=
  equal? (coerceNil left right).1 (coerceNil left right).2

section Comparison

variable {left right : Value}

theorem kind_eq_of_equal? {isEqual : Bool} (h : equal? left right = some isEqual) :
    left.kind = right.kind := by
  unfold equal? at h
  split at h
  case h_8 =>
    split at h
    · rename_i heq
      rw [heq]
    · cases h
  case h_19 => cases h
  all_goals rfl

theorem coerceNil_swap (left right : Value) :
    coerceNil right left = (coerceNil left right).swap := by
  cases left with
  | nil => cases right <;> rfl
  | _ => cases right <;> rfl

theorem comparison?_eq_none_iff :
    comparison? left right = none ↔
      (coerceNil left right).1.kind ≠ (coerceNil left right).2.kind := by
  constructor
  · intro h hkinds
    obtain ⟨isEqual, hequal⟩ :=
      exists_equal? (ofKind (coerceNil left right).1) (ofKind_of_kind_eq hkinds.symm)
    rw [comparison?, hequal] at h
    cases h
  · intro hkinds
    rw [Option.eq_none_iff_forall_ne_some]
    intro isEqual h
    exact hkinds (kind_eq_of_equal? h)

theorem alike_of_equal? (h : equal? left right = some true) : Alike left right := by
  have hright : OfKind left.kind right := ofKind_of_kind_eq (kind_eq_of_equal? h).symm
  cases left with
  | nil =>
      cases hright
      exact .plain rfl rfl
  | bool | int | uint | string =>
      cases hright
      simp only [equal?, Option.some.injEq, decide_eq_true_eq] at h
      subst h
      exact .plain rfl rfl
  | float32 =>
      cases hright
      exact .float32 (Option.some.inj h)
  | float64 =>
      cases hright
      exact .float64 (Option.some.inj h)
  | absent m =>
      cases right with
      | absent n =>
          obtain rfl : m = n := by simpa [equal?] using h
          exact .refl (by cases m <;> rfl)
      | _ => cases m <;> cases h
  | slice | map | pointer | struct =>
      cases hright <;> simp [equal?] at h
      subst h
      exact .shared rfl rfl rfl

theorem alike_of_comparison? (h : comparison? left right = some true) : Alike left right := by
  cases left with
  | nil =>
      cases right with
      | nil => exact .plain rfl rfl
      | absent n => exact .nilAbsent n
      | _ => cases h
  | absent m =>
      cases right with
      | nil => exact .absentNil m
      | _ => exact alike_of_equal? h
  | _ =>
      cases right with
      | nil => cases h
      | _ => exact alike_of_equal? h

theorem comparison?_of_plain (hid : left.identity? = none) (hfloat : left.kind.isFloat = false) :
    comparison? left left = some true := by
  cases left with
  | nil => rfl
  | bool | int | uint | string => exact congrArg some (decide_eq_true rfl)
  | float32 | float64 => cases hfloat
  | absent n => cases n <;> rfl
  | slice | map | pointer | struct => cases hid

theorem comparison?_of_shared {id : Identity} (hkind : left.kind = right.kind)
    (hleft : left.identity? = some id) (hright : right.identity? = some id) :
    comparison? left right = some true := by
  have hofKind : OfKind left.kind right := ofKind_of_kind_eq hkind.symm
  cases left with
  | slice | map | pointer | struct =>
      cases hofKind <;> cases hleft <;> cases hright
      exact congrArg some (decide_eq_true rfl)
  | _ => cases hleft

theorem comparison?_eq_true_iff : comparison? left right = some true ↔ Alike left right := by
  refine ⟨alike_of_comparison?, ?_⟩
  intro h
  cases h with
  | plain hid hfloat => exact comparison?_of_plain hid hfloat
  | float32 hxy | float64 hxy => exact congrArg some hxy
  | shared hkind hleft hright => exact comparison?_of_shared hkind hleft hright
  | nilAbsent n | absentNil n => cases n <;> rfl

theorem comparison?_comm (h : left.kind.isFloat = false) :
    comparison? left right = comparison? right left := by
  have hnone : comparison? left right = none ↔ comparison? right left = none := by
    rw [comparison?_eq_none_iff, comparison?_eq_none_iff, coerceNil_swap left right]
    exact ne_comm
  have htrue : comparison? left right = some true ↔ comparison? right left = some true := by
    rw [comparison?_eq_true_iff, comparison?_eq_true_iff]
    exact ⟨.symm h, fun halike => halike.symm (halike.isFloat_eq.trans h)⟩
  cases hleft : comparison? left right with
  | none => exact (hnone.mp hleft).symm
  | some isEqual =>
      cases isEqual with
      | true => exact (htrue.mp hleft).symm
      | false =>
          rw [hleft] at hnone htrue
          cases hright : comparison? right left with
          | none => cases hnone.mpr hright
          | some isEqual =>
              cases isEqual with
              | true => cases htrue.mpr hright
              | false => rfl

theorem getD_nilOf?_of_ne {kind : Kind} (h : ((nilOf? kind).getD .nil).kind ≠ kind) :
    (nilOf? kind).getD .nil = .nil := by
  cases hnilable : kind.nilable? with
  | none => simp [nilOf?, hnilable]
  | some n =>
      rw [nilOf?, hnilable] at h
      exact absurd (Kind.nilable?_eq_some_iff.mp hnilable).symm h

/-- Where operands still have different kinds, no `nil` has adapted. -/
theorem coerceNil_of_kind_ne (h : (coerceNil left right).1.kind ≠ (coerceNil left right).2.kind) :
    coerceNil left right = (left, right) := by
  fun_cases coerceNil left right with
  | case1 => exact congrArg (·, right) (getD_nilOf?_of_ne h)
  | case2 hleft =>
      rw [coerceNil_swap .nil left] at h
      exact congrArg (left, ·) (getD_nilOf?_of_ne h.symm)
  | case3 => rfl

end Comparison

end Value

section Operators

open Value

variable {left right : Value}

theorem evalBinary_of_comparison? {isEqual : Bool} (h : comparison? left right = some isEqual) :
    evalBinary .equal left right = .ok (.bool isEqual) ∧
      evalBinary .notEqual left right = .ok (.bool !isEqual) := by
  have hkinds : (coerceNil left right).1.kind = (coerceNil left right).2.kind :=
    kind_eq_of_equal? h
  rw [comparison?] at h
  simp only [evalBinary, if_pos hkinds, BinaryOp.family, evalFamily, evalEquality, h, and_self]

theorem evalBinary_of_comparison?_eq_none {op : BinaryOp} (h : comparison? left right = none) :
    evalBinary op left right = .error (.typeMismatch op.spelling left.kind right.kind) := by
  have hkinds := comparison?_eq_none_iff.mp h
  have hsame := coerceNil_of_kind_ne hkinds
  rw [hsame] at hkinds
  simp only [evalBinary, hsame, if_neg hkinds]

theorem evalBinary_equal_eq_true_iff :
    evalBinary .equal left right = .ok (.bool true) ↔ Alike left right := by
  rw [← comparison?_eq_true_iff]
  cases h : comparison? left right with
  | none => simp [evalBinary_of_comparison?_eq_none h]
  | some isEqual => simp [(evalBinary_of_comparison? h).1]

theorem eval_equal_self {table : SymbolTable} {e : Expr} {value : Value}
    (h : eval table e = .ok value) (hfloat : value.kind.isFloat = false) :
    eval table (.binary e .equal e) = .ok (.bool true) := by
  rw [eval_binary, h]
  exact evalBinary_equal_eq_true_iff.mpr (.refl hfloat)

theorem eval_equal_self_of_error {table : SymbolTable} {e : Expr} {error : EvalError}
    (h : eval table e = .error error) : eval table (.binary e .equal e) = .error error := by
  rw [eval_binary, h]
  rfl

end Operators

/-! ## All laws together -/

/-- The operands can be exchanged: the answer is the same, or the error has the kinds exchanged. -/
def EqualEitherWay (a b : Value) : Prop :=
  (∃ isEqual, evalBinary .equal a b = .ok (.bool isEqual) ∧
    evalBinary .equal b a = .ok (.bool isEqual)) ∨
  (evalBinary .equal a b = .error (.typeMismatch "==" a.kind b.kind) ∧
    evalBinary .equal b a = .error (.typeMismatch "==" b.kind a.kind))

/-- The two operators have opposite answers, or the same error apart from their spelling. -/
def NotEqualIsOpposite (a b : Value) : Prop :=
  (∃ isEqual, evalBinary .equal a b = .ok (.bool isEqual) ∧
    evalBinary .notEqual a b = .ok (.bool !isEqual)) ∨
  ∃ left right, evalBinary .equal a b = .error (.typeMismatch "==" left right) ∧
    evalBinary .notEqual a b = .error (.typeMismatch "!=" left right)

/-- Absent payloads of different kinds, which are both equal to `nil`. -/
def JoinedByNil (a b c : Value) : Prop :=
  b = .nil ∧ ∃ m n, m ≠ n ∧ a = .absent m ∧ c = .absent n ∧
    evalBinary .equal a c = .error (.typeMismatch "==" m.kind n.kind)

/-- The answer of `==` between `nil` and a value of each sort, in both orders. -/
structure ComparesWithNil (value : Value) : Prop where
  absent : value = .nil ∨ (∃ n, value = .absent n) →
    evalBinary .equal value .nil = .ok (.bool true) ∧
      evalBinary .equal .nil value = .ok (.bool true)
  present : value.kind.isNilable = true → (∃ id, value.identity? = some id) →
    evalBinary .equal value .nil = .ok (.bool false) ∧
      evalBinary .equal .nil value = .ok (.bool false)
  other : value.kind ≠ .nil → value.kind.isNilable = false →
    evalBinary .equal value .nil = .error (.typeMismatch "==" value.kind .nil) ∧
      evalBinary .equal .nil value = .error (.typeMismatch "==" .nil value.kind)

section Laws

variable {a b c : Value}

theorem equalEitherWay (h : a.kind.isFloat = false) : EqualEitherWay a b := by
  have hcomm : Value.comparison? a b = Value.comparison? b a := Value.comparison?_comm h
  cases hcomparison : Value.comparison? a b with
  | none =>
      rw [hcomparison] at hcomm
      exact .inr ⟨evalBinary_of_comparison?_eq_none hcomparison,
        evalBinary_of_comparison?_eq_none hcomm.symm⟩
  | some isEqual =>
      rw [hcomparison] at hcomm
      exact .inl ⟨isEqual, (evalBinary_of_comparison? hcomparison).1,
        (evalBinary_of_comparison? hcomm.symm).1⟩

theorem notEqualIsOpposite (a b : Value) : NotEqualIsOpposite a b := by
  cases hcomparison : Value.comparison? a b with
  | none =>
      exact .inr ⟨a.kind, b.kind, evalBinary_of_comparison?_eq_none hcomparison,
        evalBinary_of_comparison?_eq_none hcomparison⟩
  | some isEqual => exact .inl ⟨isEqual, evalBinary_of_comparison? hcomparison⟩

theorem equal_trans (ha : a.kind.isFloat = false)
    (hab : evalBinary .equal a b = .ok (.bool true))
    (hbc : evalBinary .equal b c = .ok (.bool true)) :
    evalBinary .equal a c = .ok (.bool true) ∨ JoinedByNil a b c := by
  rw [evalBinary_equal_eq_true_iff] at hab hbc
  rcases hab.trans ha hbc with hac | ⟨hb, m, n, hmn, rfl, rfl⟩
  · exact .inl (evalBinary_equal_eq_true_iff.mpr hac)
  · have hnone : Value.comparison? (.absent m) (.absent n) = none := if_neg hmn
    exact .inr ⟨hb, m, n, hmn, rfl, rfl, evalBinary_of_comparison?_eq_none hnone⟩

theorem comparesWithNil (value : Value) : ComparesWithNil value where
  absent := by
    rintro (rfl | ⟨n, rfl⟩)
    · exact ⟨rfl, rfl⟩
    · cases n <;> exact ⟨rfl, rfl⟩
  present := by
    rintro hnilable ⟨id, hid⟩
    cases value with
    | slice | map | pointer => exact ⟨rfl, rfl⟩
    | struct => cases hnilable
    | _ => cases hid
  other := by
    intro hnil hnilable
    cases value with
    | nil => exact absurd rfl hnil
    | absent n => cases n <;> cases hnilable
    | slice | map | pointer => cases hnilable
    | _ => exact ⟨rfl, rfl⟩

end Laws

/-- Equality is symmetric and reflexive apart from floats, and inequality is its negation. It is
transitive unless `nil` joins two absent payloads that cannot be compared. `nil` itself is equal to
what has no payload of a nilable kind, not to what has one, and it has a kind that all other values
do not have. -/
theorem equality_laws :
    (∀ a b : Value, a.kind.isFloat = false → EqualEitherWay a b) ∧
    (∀ a b : Value, NotEqualIsOpposite a b) ∧
    (∀ a b c : Value, a.kind.isFloat = false → evalBinary .equal a b = .ok (.bool true) →
      evalBinary .equal b c = .ok (.bool true) →
      evalBinary .equal a c = .ok (.bool true) ∨ JoinedByNil a b c) ∧
    (∀ (table : SymbolTable) (e : Expr),
      (∀ value, eval table e = .ok value → value.kind.isFloat = false →
        eval table (.binary e .equal e) = .ok (.bool true)) ∧
      ∀ error, eval table e = .error error →
        eval table (.binary e .equal e) = .error error) ∧
    ∀ value : Value, ComparesWithNil value := by
  refine ⟨?_, notEqualIsOpposite, ?_, ?_, comparesWithNil⟩
  · intro a b ha
    exact equalEitherWay ha
  · intro a b c ha hab hbc
    exact equal_trans ha hab hbc
  · intro table e
    exact ⟨fun value => eval_equal_self, fun error => eval_equal_self_of_error⟩

/-- An absent slice and an absent map are both equal to `nil`, and cannot be compared with each
other. A pointer is equal to itself, and an unbound name fails on both sides alike. -/
theorem equality_laws_at_absent_payloads :
    EqualEitherWay (.absent .slice) .nil ∧
    JoinedByNil (.absent .slice) .nil (.absent .map) ∧
    eval (.ofList [("p", .pointer ⟨0⟩ (.int 5))])
      (.binary (.symbol "p") .equal (.symbol "p")) = .ok (.bool true) ∧
    eval .empty (.binary (.symbol "p") .equal (.symbol "p")) = .error (.symbolNotFound "p") := by
  obtain ⟨hcomm, -, htrans, hself, -⟩ := equality_laws
  refine ⟨hcomm _ _ rfl, ?_, ?_, ?_⟩
  · have hor := htrans (.absent .slice) .nil (.absent .map) rfl rfl rfl
    apply hor.resolve_left
    intro h
    cases h
  · exact (hself _ _).1 (.pointer ⟨0⟩ (.int 5)) rfl rfl
  · exact (hself _ _).2 (.symbolNotFound "p") rfl

end FieldPredicate
