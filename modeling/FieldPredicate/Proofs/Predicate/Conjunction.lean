import FieldPredicate.Predicate
import FieldPredicate.Proofs.Check.FailFast
import FieldPredicate.Proofs.Eval.KindDirected
import FieldPredicate.Proofs.Expr.Limit
import FieldPredicate.Proofs.Expr.RoundTrip
import FieldPredicate.Proofs.Token.Spacing

/-!
# Conjunctions of predicate texts

Two texts that can be compiled are put in parentheses with `&&` between them. Neither text affects
how the other one falls into tokens or is read, so the whole is compiled to the conjunction of the
two expressions, unless it nests too deeply. Its verdict is the conjunction of their verdicts.
-/

namespace FieldPredicate

/-! ## The text -/

/-- The text of both predicates in parentheses, with `&&` between them. -/
def conjoined (first second : String) : String :=
  "(" ++ first ++ ") && (" ++ second ++ ")"

/-- What can be parsed falls into tokens up to its end, and they form the expression. -/
theorem exists_tokens_of_parse {source : String} {e : Expr}
    (h : Expr.parse (tokenize source) = .ok e) :
    ∃ tokens, tokenize source = tokens ++ [.eof] ∧ Expr.Derives 0 .or tokens e := by
  obtain ⟨used, rest, htokens, hderives, htrailing⟩ := Expr.exists_derives_of_parse h
  obtain ⟨front, last, hfront, hinner, hlast⟩ := exists_tokenize_eq source
  have hterminal : last.isTerminal = true := by
    rcases hlast with rfl | ⟨cause, text, rfl⟩ <;> rfl
  obtain ⟨more, rfl, rfl⟩ :=
    Expr.split_at_terminal (Expr.terminated_of_isTerminal hterminal [])
      (Expr.isTerminal_of_derives hderives) (hfront.symm.trans htokens)
  have hmore : ∀ token ∈ more, token.isTerminal = false :=
    fun token hmem => hinner token (List.mem_append_right used hmem)
  rw [Expr.trailing_append hmore] at htrailing
  rcases hlast with rfl | ⟨cause, text, rfl⟩
  · have hnil : more = [] := by simpa [Token.eof, Expr.trailing, Except.map] using htrailing
    refine ⟨used, ?_, hderives⟩
    rw [htokens, hnil, List.nil_append]
  · cases htrailing

theorem parse_of_compile {name source : String} {p : Predicate}
    (h : Predicate.compile name source = .ok p) : Expr.parse (tokenize source) = .ok p.expr := by
  rw [Predicate.compile] at h
  cases hparse : Expr.parse (tokenize source) with
  | error error =>
      rw [hparse] at h
      cases h
  | ok e =>
      rw [hparse] at h
      cases h
      rfl

theorem tokenize_conjoined {first second : String} {left right : List Token}
    (hfirst : tokenize first = left ++ [.eof]) (hsecond : tokenize second = right ++ [.eof]) :
    tokenize (conjoined first second) = Expr.conjoinedTokens left right := by
  have htext : (conjoined first second).toList =
      '(' :: (first.toList ++ ')' :: ' ' :: (BinaryOp.and.spelling.toList ++
        ' ' :: '(' :: (second.toList ++ [')']))) := by
    simp [conjoined, BinaryOp.spelling]
  have hclosing : Breaks ')' := breaks_of_punctuation (.inl rfl)
  rw [tokenize, htext, Token.all_leftParen, all_append hfirst hclosing, Token.all_rightParen,
    Token.all_blank, Expr.all_binaryOp, Token.all_leftParen, all_append hsecond hclosing,
    Token.all_rightParen, all_eq, Token.next_nil]
  rfl

theorem compile_conjoined {firstName secondName first second : String} {p q : Predicate}
    (hfirst : Predicate.compile firstName first = .ok p)
    (hsecond : Predicate.compile secondName second = .ok q) (name : String) :
    Predicate.compile name (conjoined first second) =
        .ok ⟨name, conjoined first second, .binary p.expr .and q.expr⟩ ∨
      Predicate.compile name (conjoined first second) =
        .error (.parse (.tooDeep Expr.maxDepth)) := by
  obtain ⟨left, hleft, hleftDerives⟩ := exists_tokens_of_parse (parse_of_compile hfirst)
  obtain ⟨right, hright, hrightDerives⟩ := exists_tokens_of_parse (parse_of_compile hsecond)
  have htokens := tokenize_conjoined hleft hright
  rcases Expr.parse_conjoinedTokens hleftDerives hrightDerives with hparse | hdeep
  · left
    simp only [Predicate.compile, htokens, hparse]
  · right
    simp only [Predicate.compile, htokens, hdeep, Failure.ofParse]

/-! ## The verdict -/

section Operands

variable {left right kind : Kind}

theorem operationKind_and_eq_ok (h : BinaryOp.and.operationKind left = .ok kind) :
    left = .bool := by
  cases left with
  | bool => rfl
  | _ => cases h

/-- Both operands of `&&` have to be booleans, and an untyped `nil` adapts to none. -/
theorem binaryKind_and_eq_ok (h : binaryKind .and left right = .ok kind) :
    left = .bool ∧ right = .bool := by
  simp only [binaryKind, Kind.coerceNil] at h
  split at h
  · rename_i hnil
    rw [if_pos rfl] at h
    have hright : right = .bool := operationKind_and_eq_ok h
    rw [hright] at hnil
    cases hnil.2
  · split at h
    · rename_i hnil
      rw [if_pos rfl] at h
      have hleft : left = .bool := operationKind_and_eq_ok h
      rw [hleft] at hnil
      cases hnil.2
    · by_cases hkinds : left = right
      · rw [if_pos hkinds] at h
        have hleft : left = .bool := operationKind_and_eq_ok h
        exact ⟨hleft, hkinds ▸ hleft⟩
      · rw [if_neg hkinds] at h
        cases h

end Operands

theorem evalBinary_and_eq_ok {left right value : Value}
    (h : evalBinary .and left right = .ok value) :
    ∃ x y, left = .bool x ∧ right = .bool y ∧ value = .bool (x && y) := by
  have hconforms : Conforms (binaryKind .and left.kind right.kind) (evalBinary .and left right) :=
    evalBinary_conforms left.ofKind right.ofKind
  rw [h] at hconforms
  obtain ⟨hleft, hright⟩ := binaryKind_and_eq_ok hconforms.of_ok
  obtain ⟨x, rfl⟩ := Value.exists_eq_bool hleft
  obtain ⟨y, rfl⟩ := Value.exists_eq_bool hright
  have hvalue : evalBinary .and (.bool x) (.bool y) = .ok (.bool (x && y)) := rfl
  rw [hvalue] at h
  exact ⟨x, y, rfl, rfl, (Except.ok.inj h).symm⟩

namespace Predicate

section Verdict

variable {p q both : Predicate} {table : SymbolTable}

/-- A conjunction has a verdict exactly if both of its operands have one. -/
theorem test_and_eq_ok_iff (hexpr : both.expr = .binary p.expr .and q.expr) {verdict : Bool} :
    both.test table = .ok verdict ↔
      ∃ x y, p.test table = .ok x ∧ q.test table = .ok y ∧ verdict = (x && y) := by
  simp only [test_eq_ok_iff]
  constructor
  · intro h
    rw [evaluate, hexpr] at h
    obtain ⟨a, b, ha, hb, hand⟩ := exists_of_eval_binary h
    obtain ⟨x, y, rfl, rfl, hverdict⟩ := evalBinary_and_eq_ok hand
    exact ⟨x, y, ha, hb, Value.bool.inj hverdict⟩
  · rintro ⟨x, y, hx, hy, rfl⟩
    rw [evaluate] at hx hy
    rw [evaluate, hexpr, eval_binary, hx, hy]
    rfl

theorem test_and_of_error (hexpr : both.expr = .binary p.expr .and q.expr) {error : EvalError}
    (h : p.evaluate table = .error error) : both.test table = .error error := by
  apply test_of_error
  rw [evaluate] at h
  rw [evaluate, hexpr, eval_binary, h]
  rfl

theorem exists_test_error_iff :
    (∃ error, p.test table = .error error) ↔ ¬ ∃ verdict, p.test table = .ok verdict := by
  cases p.test table <;> simp

end Verdict

/-- Two texts that can be compiled give a conjunction that is compiled too, unless it nests too
deeply. It is true exactly if both are, false exactly if both are booleans and not both true, and
otherwise has an error: that of the first text if its expression has no value. -/
theorem compile_test_conjoined {firstName secondName first second : String} {p q : Predicate}
    (hfirst : compile firstName first = .ok p) (hsecond : compile secondName second = .ok q)
    (name : String) :
    (compile name (conjoined first second) =
        .ok ⟨name, conjoined first second, .binary p.expr .and q.expr⟩ ∨
      compile name (conjoined first second) = .error (.parse (.tooDeep Expr.maxDepth))) ∧
    ∀ both, compile name (conjoined first second) = .ok both → ∀ table,
      (both.test table = .ok true ↔ p.test table = .ok true ∧ q.test table = .ok true) ∧
      (both.test table = .ok false ↔ ∃ x y, p.test table = .ok x ∧ q.test table = .ok y ∧
        (x = false ∨ y = false)) ∧
      ((∃ error, both.test table = .error error) ↔
        ¬ ∃ x y, p.test table = .ok x ∧ q.test table = .ok y) ∧
      ∀ error, p.evaluate table = .error error → both.test table = .error error := by
  have hcompile := compile_conjoined hfirst hsecond name
  refine ⟨hcompile, ?_⟩
  intro both hboth table
  have hexpr : both.expr = .binary p.expr .and q.expr := by
    rcases hcompile with hok | hdeep
    · rw [hok] at hboth
      cases hboth
      rfl
    · rw [hdeep] at hboth
      cases hboth
  have htest : ∀ verdict, both.test table = .ok verdict ↔
      ∃ x y, p.test table = .ok x ∧ q.test table = .ok y ∧ verdict = (x && y) := by
    intro verdict
    exact test_and_eq_ok_iff hexpr
  refine ⟨?_, ?_, ?_, ?_⟩
  · rw [htest]
    constructor
    · rintro ⟨x, y, hx, hy, hverdict⟩
      obtain ⟨rfl, rfl⟩ : x = true ∧ y = true := by simpa using hverdict.symm
      exact ⟨hx, hy⟩
    · rintro ⟨hx, hy⟩
      exact ⟨true, true, hx, hy, rfl⟩
  · rw [htest]
    simp only [Bool.false_eq, Bool.and_eq_false_iff]
  · rw [exists_test_error_iff]
    apply not_congr
    constructor
    · rintro ⟨verdict, hverdict⟩
      obtain ⟨x, y, hx, hy, -⟩ := (htest verdict).mp hverdict
      exact ⟨x, y, hx, hy⟩
    · rintro ⟨x, y, hx, hy⟩
      exact ⟨x && y, (htest _).mpr ⟨x, y, hx, hy, rfl⟩⟩
  · intro error herror
    exact test_and_of_error hexpr herror

/-- A conjunction of `a || b` and `n > 1`, whose operators would bind otherwise without the
parentheses. It is false where `n` is too small, and where `a` is not bound that comes first. -/
theorem test_conjoined_either_and_above :
    ∃ both, compile "" "(a || b) && (n > 1)" = .ok both ∧
      both.test (.ofList [("a", .bool true), ("b", .bool false), ("n", .int 1)]) = .ok false ∧
      both.test (.ofList [("n", .bool true)]) = .error (.symbolNotFound "a") := by
  have hleft : tokenize "a || b" =
      [⟨.symbol, "a"⟩, ⟨.logicalOr, "||"⟩, ⟨.symbol, "b"⟩, .eof] := by
    decide +kernel
  have hright : tokenize "n > 1" =
      [⟨.symbol, "n"⟩, ⟨.greater, ">"⟩, ⟨.integer, "1"⟩, .eof] := by
    decide +kernel
  have hwhole : tokenize "(a || b) && (n > 1)" =
      [⟨.leftParen, "("⟩, ⟨.symbol, "a"⟩, ⟨.logicalOr, "||"⟩, ⟨.symbol, "b"⟩, ⟨.rightParen, ")"⟩,
        ⟨.logicalAnd, "&&"⟩, ⟨.leftParen, "("⟩, ⟨.symbol, "n"⟩, ⟨.greater, ">"⟩, ⟨.integer, "1"⟩,
        ⟨.rightParen, ")"⟩, .eof] := by
    decide +kernel
  have hfirst : compile "" "a || b" =
      .ok ⟨"", "a || b", .binary (.symbol "a") .or (.symbol "b")⟩ := by
    rw [compile, hleft]
    rfl
  have hsecond : compile "" "n > 1" =
      .ok ⟨"", "n > 1", .binary (.symbol "n") .greater (.integer "1")⟩ := by
    rw [compile, hright]
    rfl
  have hboth : compile "" "(a || b) && (n > 1)" =
      .ok ⟨"", "(a || b) && (n > 1)", .binary (.binary (.symbol "a") .or (.symbol "b")) .and
        (.binary (.symbol "n") .greater (.integer "1"))⟩ := by
    rw [compile, hwhole]
    rfl
  obtain ⟨-, htest⟩ := compile_test_conjoined hfirst hsecond ""
  refine ⟨_, hboth, ?_, ?_⟩
  · obtain ⟨-, hfalse, -, -⟩ := htest _ hboth
      (.ofList [("a", .bool true), ("b", .bool false), ("n", .int 1)])
    exact hfalse.mpr ⟨true, false, rfl, rfl, .inr rfl⟩
  · obtain ⟨-, -, -, herror⟩ := htest _ hboth (.ofList [("n", .bool true)])
    exact herror _ rfl

end Predicate

end FieldPredicate
