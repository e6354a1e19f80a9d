import FieldPredicate.Proofs.Eval.Dispatch
import FieldPredicate.Proofs.Eval.EqualityLaws
import FieldPredicate.Proofs.Eval.ExactArithmetic
import FieldPredicate.Proofs.Eval.OrderingLaws
import FieldPredicate.Proofs.Numeral.DecimalText

/-!
# Operators before an operand as operators between two

A negative is the difference from zero, and `!` compares with `false`. Each comparison has another
one of which it is the negation. Both sides of such an equation have one value or none. Where they
have none, an operand has failed and its error is handed on, or the kinds were refused, and the two
errors differ at most in the operator that they name.
-/

namespace FieldPredicate

/-! ## Negatives and truth values -/

section Values

variable {n : Int64}

theorem evalUnary_negate_of_ne (h : n ≠ Int64.minValue) :
    evalUnary .negate (.int n) = .ok (.int (-n)) := by
  rw [evalUnary, if_neg h]

@[simp] theorem evalUnary_negate_minValue :
    evalUnary .negate (.int Int64.minValue) = .error (.overflow "-") := rfl

theorem neg_ne_minValue (h : n ≠ Int64.minValue) : -n ≠ Int64.minValue := by
  intro heq
  have hneg : (-n).toInt = -n.toInt := toInt_neg_of_ne_minValue h
  have hmin : (-n).toInt = -2 ^ 63 := congrArg Int64.toInt heq
  have hhigh : n.toInt < 2 ^ 63 := n.toInt_lt
  omega

theorem evalBinary_sub_from_zero (n : Int64) :
    evalBinary .sub (.int 0) (.int n) = evalUnary .negate (.int n) := by
  have hroute : evalBinary .sub (.int 0) (.int n) = (exactInt .sub (0 - n.toInt)).map .int := rfl
  rw [hroute, Int.zero_sub]
  by_cases hmin : n = Int64.minValue
  · subst hmin
    rfl
  · have hneg : (-n).toInt = -n.toInt := toInt_neg_of_ne_minValue hmin
    have hfits : FitsInt64 (-n.toInt) := by
      rw [← hneg]
      exact ⟨(-n).le_toInt, Int.le_of_lt_add_one (-n).toInt_lt⟩
    have hexact : ∃ c : Int64, c.toInt = -n.toInt ∧ exactInt .sub (-n.toInt) = .ok c :=
      exactInt_of_fits hfits
    obtain ⟨c, hc, hexact⟩ := hexact
    rw [evalUnary_negate_of_ne hmin, hexact, Int64.toInt_inj.mp (hc.trans hneg.symm)]
    rfl

@[simp] theorem evalBinary_equal_false (b : Bool) :
    evalBinary .equal (.bool b) (.bool false) = evalUnary .not (.bool b) := by
  cases b <;> rfl

end Values

/-- Negatives of an expression. The least integer has none. -/
structure NegatesIntegers (table : SymbolTable) (e : Expr) : Prop where
  difference : eval table (.unary .negate e) = eval table (.binary (.integer "0") .sub e)
  twice : ∀ n, eval table e = .ok (.int n) → n ≠ Int64.minValue →
    eval table (.unary .negate (.unary .negate e)) = .ok (.int n)
  least : eval table e = .ok (.int Int64.minValue) →
    eval table (.unary .negate e) = .error (.overflow "-") ∧
      eval table (.unary .negate (.unary .negate e)) = .error (.overflow "-")
  failed : ∀ error, eval table e = .error error →
    eval table (.unary .negate e) = .error error ∧
      eval table (.unary .negate (.unary .negate e)) = .error error
  identity : eval table (.unary .identity e) = eval table e

structure NegatesTruth (table : SymbolTable) (e : Expr) : Prop where
  comparison : eval table (.unary .not e) = eval table (.binary e .equal (.bool false))
  twice : eval table (.unary .not (.unary .not e)) = eval table e

section Expressions

variable {table : SymbolTable} {e : Expr}

@[simp] theorem eval_zero : eval table (.integer "0") = .ok (.int 0) := by
  have hzero : Literal.decode (Nat.repr 0) = .ok 0 := Literal.decode_repr rfl
  exact congrArg (Except.map Value.int) hzero

theorem negatesIntegers (h : ∀ value, eval table e = .ok value → value.kind = .int) :
    NegatesIntegers table e := by
  cases hvalue : eval table e with
  | error error =>
      constructor <;> simp [hvalue, Except.bind]
  | ok value =>
      cases Value.ofKind_of_kind_eq (h value hvalue) with
      | int n =>
          refine ⟨?_, ?_, ?_, ?_, ?_⟩
          · rw [eval_unary, eval_binary, eval_zero, hvalue]
            exact (evalBinary_sub_from_zero n).symm
          · intro m hm hmin
            cases hvalue.symm.trans hm
            rw [eval_unary, eval_unary, hvalue]
            simp [Except.bind, evalUnary_negate_of_ne hmin,
              evalUnary_negate_of_ne (neg_ne_minValue hmin)]
          · intro hmin
            simp [hmin, Except.bind]
          · intro error herror
            cases hvalue.symm.trans herror
          · rw [eval_unary, hvalue]
            rfl

theorem negatesTruth (h : ∀ value, eval table e = .ok value → value.kind = .bool) :
    NegatesTruth table e := by
  cases hvalue : eval table e with
  | error error =>
      constructor <;> simp [hvalue, Except.bind]
  | ok value =>
      obtain ⟨b, rfl⟩ := Value.exists_eq_bool (h value hvalue)
      constructor
      · rw [eval_unary, eval_binary, hvalue]
        exact (evalBinary_equal_false b).symm
      · rw [eval_unary, eval_unary, hvalue]
        cases b <;> rfl

end Expressions

/-! ## Comparisons and their negations -/

/-- Two results that are the same, or refuse the same kinds in the name of two operators. -/
inductive SameButOperator (op other : BinaryOp) :
    Except EvalError Value → Except EvalError Value → Prop
  | same (result : Except EvalError Value) : SameButOperator op other result result
  | mismatch (left right : Kind) :
      SameButOperator op other (.error (.typeMismatch op.spelling left right))
        (.error (.typeMismatch other.spelling left right))
  | undefined (kind : Kind) :
      SameButOperator op other (.error (.invalidType op.spelling kind))
        (.error (.invalidType other.spelling kind))

theorem SameButOperator.eq_ok_iff {op other : BinaryOp} {r s : Except EvalError Value}
    (h : SameButOperator op other r s) (value : Value) : r = .ok value ↔ s = .ok value := by
  cases h with
  | same => rfl
  | mismatch | undefined => simp

section Pairs

variable {op other : BinaryOp} {kind : Kind} {a b : Value}

theorem sameButOperator_notEqual (a b : Value) :
    SameButOperator .notEqual .equal (evalBinary .notEqual a b)
      ((evalBinary .equal a b).bind (evalUnary .not)) := by
  rcases notEqualIsOpposite a b with ⟨isEqual, hequal, hnot⟩ | ⟨left, right, hequal, hnot⟩
  · rw [hequal, hnot]
    exact .same (.ok (.bool !isEqual))
  · rw [hequal, hnot]
    exact .mismatch left right

theorem eq_of_coerceNil_eq {left right : Kind} (hkind : kind.isNilable = false)
    (h : Kind.coerceNil left right = (kind, kind)) : left = kind ∧ right = kind := by
  unfold Kind.coerceNil at h
  split at h
  · rename_i hnil
    cases h
    simp [hkind] at hnil
  · split at h
    · rename_i hnil
      cases h
      simp [hkind] at hnil
    · exact Prod.mk.inj h

theorem isNilable_of_ordered (hop : op.family = .ordering)
    (hdefined : op.isDefinedOn kind = true) : kind.isNilable = false := by
  simp only [BinaryOp.isDefinedOn, hop] at hdefined
  cases kind with
  | slice | map | pointer => cases hdefined
  | _ => rfl

theorem isLinear_of_ordered (hop : op.family = .ordering)
    (hdefined : op.isDefinedOn kind = true) (hfloat : kind.isFloat = false) :
    kind.isLinear = true := by
  simp only [BinaryOp.isDefinedOn, hop] at hdefined
  cases kind with
  | int | uint | string => rfl
  | float32 | float64 => cases hfloat
  | _ => cases hdefined

/-- The kinds of the operands decide alike for both operators whether there is an answer. -/
theorem sameButOperator_of_ordering (hop : op.family = .ordering)
    (hother : other.family = .ordering) (hfloat : a.kind.isFloat = false)
    (h : ComparesLinearly a b →
      ∃ answer, evalBinary other a b = .ok (.bool answer) ∧
        evalBinary op a b = .ok (.bool !answer)) :
    SameButOperator op other (evalBinary op a b)
      ((evalBinary other a b).bind (evalUnary .not)) := by
  have hfirst := evalBinary_dispatched op a b
  have hsecond := evalBinary_dispatched other a b
  cases hkinds : Kind.coerceNil a.kind b.kind with
  | mk left right =>
      rw [hkinds] at hfirst hsecond
      by_cases hsame : left = right
      · subst hsame
        have hdefined : other.isDefinedOn left = op.isDefinedOn left := by
          simp only [BinaryOp.isDefinedOn, hop, hother]
        cases hcase : op.isDefinedOn left with
        | false =>
            rw [hcase] at hdefined
            rw [(hfirst.eq_invalidType_iff _ left).mpr ⟨rfl, rfl, hcase⟩,
              (hsecond.eq_invalidType_iff _ left).mpr ⟨rfl, rfl, hdefined⟩]
            exact .undefined left
        | true =>
            obtain ⟨ha, hb⟩ := eq_of_coerceNil_eq (isNilable_of_ordered hop hcase) hkinds
            rw [ha] at hfloat
            have hlinear : left.isLinear = true := isLinear_of_ordered hop hcase hfloat
            obtain ⟨answer, hsecond, hfirst⟩ := h (comparesLinearly hlinear ha hb)
            rw [hfirst, hsecond]
            exact .same (.ok (.bool !answer))
      · rw [(hfirst.eq_typeMismatch_iff _ left right).mpr ⟨rfl, rfl, hsame⟩,
          (hsecond.eq_typeMismatch_iff _ left right).mpr ⟨rfl, rfl, hsame⟩]
        exact .mismatch left right

end Pairs

/-- An operator between two expressions and the negation of another one have one value, or both
have none for one reason. -/
structure AgreesWithNegation (table : SymbolTable) (a : Expr) (op other : BinaryOp) (b : Expr) :
    Prop where
  value : ∀ v, eval table (.binary a op b) = .ok v ↔
    eval table (.unary .not (.binary a other b)) = .ok v
  result : SameButOperator op other (eval table (.binary a op b))
    (eval table (.unary .not (.binary a other b)))

theorem agreesWithNegation {table : SymbolTable} {a b : Expr} {op other : BinaryOp}
    (h : ∀ left right, eval table a = .ok left → eval table b = .ok right →
      SameButOperator op other (evalBinary op left right)
        ((evalBinary other left right).bind (evalUnary .not))) :
    AgreesWithNegation table a op other b := by
  have hresult : SameButOperator op other (eval table (.binary a op b))
      (eval table (.unary .not (.binary a other b))) := by
    rw [eval_unary, eval_binary, eval_binary]
    cases hleft : eval table a with
    | error error => exact .same _
    | ok left =>
        cases hright : eval table b with
        | error error => exact .same _
        | ok right => exact h left right hleft hright
  exact ⟨hresult.eq_ok_iff, hresult⟩

/-! ## All operators together -/

/-- On integers a negative is the difference from zero, also where it overflows, and on truth values
`!` is the comparison with `false`. Inequality is the negation of equality, and unless the first
operand is a float each comparison that allows equality is the negation of the opposite strict one.
A float is compared with floats only, so neither operand is one, or the kinds are refused. -/
theorem unary_operators_agree_with_binary (table : SymbolTable) :
    (∀ e, (∀ value, eval table e = .ok value → value.kind = .int) → NegatesIntegers table e) ∧
    (∀ e, (∀ value, eval table e = .ok value → value.kind = .bool) → NegatesTruth table e) ∧
    (∀ a b, AgreesWithNegation table a .notEqual .equal b) ∧
    ∀ a b, (∀ value, eval table a = .ok value → value.kind.isFloat = false) →
      AgreesWithNegation table a .greaterEqual .less b ∧
        AgreesWithNegation table a .lessEqual .greater b := by
  refine ⟨fun e => negatesIntegers, fun e => negatesTruth, ?_, ?_⟩
  · intro a b
    apply agreesWithNegation
    intro left right _ _
    exact sameButOperator_notEqual left right
  · intro a b hfloat
    constructor
    · apply agreesWithNegation
      intro left right hleft _
      exact sameButOperator_of_ordering rfl rfl (hfloat left hleft) ComparesLinearly.greaterEqual
    · apply agreesWithNegation
      intro left right hleft _
      exact sameButOperator_of_ordering rfl rfl (hfloat left hleft) ComparesLinearly.lessEqual

/-- The least integer has no negative, in either spelling. A structure has no order, so both sides
of a comparison with one are refused, each in the name of its operator. -/
theorem unary_operators_agree_with_binary_at_edges :
    eval (.ofList [("x", .int Int64.minValue)]) (.unary .negate (.symbol "x")) =
      .error (.overflow "-") ∧
    NegatesIntegers (.ofList [("x", .int Int64.minValue)]) (.symbol "x") ∧
    NegatesTruth (.ofList [("b", .bool false)]) (.symbol "b") ∧
    AgreesWithNegation (.ofList [("s", .struct ⟨0⟩ "S" [])]) (.symbol "s") .greaterEqual .less
      (.symbol "s") ∧
    eval (.ofList [("s", .struct ⟨0⟩ "S" [])]) (.binary (.symbol "s") .greaterEqual (.symbol "s")) =
      .error (.invalidType ">=" .struct) := by
  have hint : NegatesIntegers (.ofList [("x", .int Int64.minValue)]) (.symbol "x") := by
    apply (unary_operators_agree_with_binary _).1
    intro value h
    cases h
    rfl
  refine ⟨(hint.least rfl).1, hint, ?_, ?_, rfl⟩
  · apply (unary_operators_agree_with_binary _).2.1
    intro value h
    cases h
    rfl
  · refine ((unary_operators_agree_with_binary _).2.2.2 _ _ ?_).1
    intro value h
    cases h
    rfl

end FieldPredicate
