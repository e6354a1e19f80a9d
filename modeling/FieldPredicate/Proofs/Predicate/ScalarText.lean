import FieldPredicate.Predicate
import FieldPredicate.Proofs.Eval.ExactArithmetic
import FieldPredicate.Proofs.Expr.RoundTrip
import FieldPredicate.Proofs.Numeral.DecimalText
import FieldPredicate.Value.Render

/-!
# Scalars written as predicate text

The text that shows an integer or a boolean is an expression whose value it is, and so is a string
between backticks. Nothing that a table binds comes between. A negative integer is read as a negated
literal, so the least one, whose literal does not fit, is the only integer that is not read back.
-/

namespace FieldPredicate

section Texts

variable {name source : String} {table : SymbolTable} {e : Expr}

theorem evaluate_of_parse (h : Expr.parse (tokenize source) = .ok e) :
    evaluate name source table = (eval table e).mapError .eval := by
  rw [evaluate, Predicate.compile, h]
  rfl

theorem wellFormed_repr (k : Nat) : (Expr.integer (Nat.repr k)).WellFormed := by
  have hlexeme : Lexeme .integer (Nat.repr k).toList := by
    rw [Nat.toList_repr]
    exact lexeme_toDigits k
  exact hlexeme

theorem evaluate_repr (k : Nat) :
    evaluate name (Nat.repr k) table =
      ((Literal.decode (Nat.repr k)).map Value.int).mapError .eval :=
  evaluate_of_parse (Expr.parse_tokenize_of_nesting_le (wellFormed_repr k) (Nat.zero_le _))

theorem evaluate_minus_repr (k : Nat) :
    evaluate name ("-" ++ Nat.repr k) table =
      (((Literal.decode (Nat.repr k)).map Value.int).bind (evalUnary .negate)).mapError .eval := by
  have hnesting : (Expr.integer (Nat.repr k)).nesting < Expr.maxDepth := Nat.succ_pos _
  have hparse := Expr.parse_tokenize_unary .negate (wellFormed_repr k) hnesting
  rw [UnaryOp.spelling, Expr.render] at hparse
  rw [evaluate_of_parse hparse, eval_unary, eval]

end Texts

section Integers

variable {name : String} {table : SymbolTable} {n : Int64}

theorem evaluate_render_of_nonneg (h : 0 ≤ n.toInt) :
    evaluate name (Value.int n).render table = .ok (.int n) := by
  have htext : (Value.int n).render = Nat.repr n.toInt.toNat := by
    rw [Value.render, Int.repr_eq_if, if_pos h]
  have hvalue : n.toInt = (n.toInt.toNat : Int) := (Int.toNat_of_nonneg h).symm
  rw [htext, evaluate_repr, Literal.decode_repr hvalue]
  rfl

theorem render_of_neg (h : n.toInt < 0) :
    (Value.int n).render = "-" ++ Nat.repr (-n.toInt).toNat := by
  rw [Value.render, Int.repr_eq_if, if_neg (Int.not_le.mpr h)]

theorem evaluate_render_of_neg (h : n.toInt < 0) (hmin : n ≠ Int64.minValue) :
    evaluate name (Value.int n).render table = .ok (.int n) := by
  have hneg : (-n).toInt = -n.toInt := toInt_neg_of_ne_minValue hmin
  have hvalue : (-n).toInt = ((-n.toInt).toNat : Int) := by omega
  have hfits : -n ≠ Int64.minValue := by
    intro heq
    have hmin : (-n).toInt = -2 ^ 63 := congrArg Int64.toInt heq
    omega
  rw [render_of_neg h, evaluate_minus_repr, Literal.decode_repr hvalue]
  simp [Except.map, Except.bind, Except.mapError, evalUnary, hfits]

end Integers

/-- An integer other than the least one, a string and a boolean are read back from their text,
whatever names are bound. The literal of the least integer is too large by one. -/
theorem evaluate_scalar_text (name : String) (table : SymbolTable) :
    (∀ n : Int64, n ≠ Int64.minValue →
      evaluate name (Value.int n).render table = .ok (.int n)) ∧
    evaluate name (Value.int Int64.minValue).render table =
      .error (.eval (.literalTooLarge "9223372036854775808")) ∧
    (∀ s : String, '\x60' ∉ s.toList →
      evaluate name ("`" ++ s ++ "`") table = .ok (.string s)) ∧
    ∀ b : Bool, evaluate name (Value.bool b).render table = .ok (.bool b) := by
  refine ⟨?_, ?_, ?_, ?_⟩
  · intro n hmin
    by_cases hneg : n.toInt < 0
    · exact evaluate_render_of_neg hneg hmin
    · exact evaluate_render_of_nonneg (Int.not_lt.mp hneg)
  · have htext : (Value.int Int64.minValue).render = "-" ++ Nat.repr 9223372036854775808 := by
      decide
    have hlarge : Literal.decode (Nat.repr 9223372036854775808) =
        .error (.literalTooLarge (Nat.repr 9223372036854775808)) :=
      Literal.decode_repr_of_ge (by decide)
    rw [htext, evaluate_minus_repr, hlarge]
    rfl
  · intro s hs
    have hform : (Expr.string s).WellFormed := hs
    exact evaluate_of_parse (Expr.parse_tokenize_of_nesting_le hform (Nat.zero_le _))
  · intro b
    have hform : (Expr.bool b).WellFormed := trivial
    exact evaluate_of_parse (Expr.parse_tokenize_of_nesting_le hform (Nat.zero_le _))

/-- A negative integer, a string with an operator and a line break in it, and a boolean whose text
is bound to another value. -/
theorem evaluate_scalar_text_over_bindings :
    evaluate "p" "-5" (.ofList [("true", .int 1)]) = .ok (.int (-5)) ∧
    evaluate "p" "`a &&\n é`" (.ofList [("true", .int 1)]) = .ok (.string "a &&\n é") ∧
    evaluate "p" "true" (.ofList [("true", .int 1)]) = .ok (.bool true) := by
  obtain ⟨hint, -, hstring, hbool⟩ := evaluate_scalar_text "p" (.ofList [("true", .int 1)])
  refine ⟨?_, ?_, hbool true⟩
  · have htext : (Value.int (-5)).render = "-5" := by decide
    rw [← htext]
    exact hint (-5) (by decide)
  · exact hstring "a &&\n é" (by decide)

end FieldPredicate
