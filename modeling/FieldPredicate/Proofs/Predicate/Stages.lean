import FieldPredicate.Proofs.Eval.Dispatch
import FieldPredicate.Proofs.Predicate.Conjunction
import FieldPredicate.Proofs.Predicate.LexicalFaults

/-!
# Failures are filed by their stage

Reading meets a lexical fault only where the tokens end in it, and hands it on as it is. So what is
filed as a fault of the text is the fault that the tokens end in, what is filed as an error of
reading is none, and what compiles has tokens up to the end of the text. Evaluation has no errors
about verdicts, and checks take their causes over from compiling and testing.
-/

namespace FieldPredicate

/-! ## Lexical faults -/

theorem LexicalFault.cause_ne_unrecognized {cause : LexError} {text cs : List Char}
    (h : LexicalFault cause text cs) : cause ≠ .unrecognized := by
  cases h <;> simp

theorem Splits.cause_ne_unrecognized {cs : List Char} {tokens : List Token} (h : Splits cs tokens)
    {cause : LexError} {text : String} (hmem : ⟨.error cause, text⟩ ∈ tokens) :
    cause ≠ .unrecognized := by
  obtain ⟨left, rest, hfirst⟩ := h.exists_firstToken hmem
  cases hfirst with
  | lexeme hlongest => exact absurd hlongest.lexeme.isTerminal (by simp [TokenKind.isTerminal])
  | fault hfault => exact hfault.cause_ne_unrecognized

namespace Expr

section Faults

variable {tokens : List Token} {cause : LexError}

theorem exists_mem_of_trailing (h : trailing tokens = .error (.lex cause)) :
    ∃ text, ⟨.error cause, text⟩ ∈ tokens := by
  fun_induction trailing tokens with
  | case1 => cases h
  | case2 => cases h
  | case3 other text rest =>
      cases h
      exact ⟨text, List.mem_cons_self⟩
  | case4 token rest _ _ ih =>
      cases hrest : trailing rest with
      | ok texts =>
          rw [hrest] at h
          cases h
      | error error =>
          rw [hrest] at h
          cases h
          obtain ⟨text, hmem⟩ := ih hrest
          exact ⟨text, List.mem_cons_of_mem token hmem⟩

theorem exists_of_refusal_eq_lex {report : String → ParseError} (hreport : Expectation report)
    {token : Option Token} (h : refusal report token = .lex cause) :
    ∃ text, token = some ⟨.error cause, text⟩ := by
  unfold refusal at h
  split at h
  · cases h
    exact ⟨_, rfl⟩
  · cases hreport <;> cases h

/-- A lexical fault is answered only where it is one of the tokens. -/
theorem exists_mem_of_parse (h : parse tokens = .error (.lex cause)) :
    ∃ text, ⟨.error cause, text⟩ ∈ tokens := by
  cases read_outcome tokens with
  | formed used after e htokens _ _ hread =>
      have hread := hread after rfl
      rw [← htokens] at hread
      cases htrailing : trailing after with
      | error error =>
          rw [parse_of_trailing_error hread htrailing] at h
          cases h
          obtain ⟨text, hmem⟩ := exists_mem_of_trailing htrailing
          exact ⟨text, htokens ▸ List.mem_append_right used hmem⟩
      | ok texts =>
          cases texts with
          | nil =>
              rw [parse_of_trailing_nil hread htrailing] at h
              cases h
          | cons first texts =>
              rw [parse_of_trailing_cons hread htrailing] at h
              cases h
  | tooDeep used after htokens _ hread =>
      rw [htokens, parse_of_read_error (hread after)] at h
      cases h
  | refused used after report htokens _ hreport hread =>
      rw [htokens, parse_of_read_error (hread after rfl)] at h
      obtain ⟨text, hhead⟩ := exists_of_refusal_eq_lex hreport (Except.error.inj h)
      exact ⟨text, htokens ▸ List.mem_append_right used (List.mem_of_head? hhead)⟩

end Faults

end Expr

/-- What is filed as a lexical fault is the fault that the tokens end in. -/
theorem exists_tokens_of_parse_lex {source : String} {cause : LexError}
    (h : Expr.parse (tokenize source) = .error (.lex cause)) :
    cause ≠ .unrecognized ∧ ∃ front text, tokenize source = front ++ [⟨.error cause, text⟩] := by
  obtain ⟨text, hmem⟩ := Expr.exists_mem_of_parse h
  refine ⟨(splits_all source.toList).cause_ne_unrecognized hmem, ?_⟩
  obtain ⟨front, last, htokens, hfront, -⟩ := exists_tokenize_eq source
  rw [htokens, List.mem_append, List.mem_singleton] at hmem
  rcases hmem with hmem | rfl
  · cases hfront _ hmem
  · exact ⟨front, text, htokens⟩

/-! ## Evaluation -/

/-- The result is not that a value is no boolean, which only a verdict finds fault with. -/
def NoVerdictError {α : Type} (result : Except EvalError α) : Prop :=
  ∀ kind, result ≠ .error (.notBoolean kind)

/-- An expression is never refused for the kind of its own value. -/
theorem eval_noVerdictError (table : SymbolTable) (e : Expr) : NoVerdictError (eval table e) := by
  intro kind h
  cases eval_failsWithin table e _ h

/-! ## Compiling and evaluating -/

section Stages

variable {name source : String}

theorem parse_of_compile_lex {cause : LexError}
    (h : Predicate.compile name source = .error (.lex cause)) :
    Expr.parse (tokenize source) = .error (.lex cause) := by
  obtain ⟨error, hparse, hfailure⟩ := Predicate.exists_of_compile_error h
  cases error with
  | lex found =>
      cases hfailure
      exact hparse
  | _ => cases hfailure

theorem compile_ne_parse_lex (cause : LexError) :
    Predicate.compile name source ≠ .error (.parse (.lex cause)) := by
  intro h
  obtain ⟨error, -, hfailure⟩ := Predicate.exists_of_compile_error h
  exact Failure.ofParse_ne_parse_lex error cause hfailure.symm

theorem exists_tokens_of_compile {predicate : Predicate}
    (h : Predicate.compile name source = .ok predicate) :
    ∃ front, tokenize source = front ++ [.eof] := by
  obtain ⟨front, htokens, -⟩ := exists_tokens_of_parse (parse_of_compile h)
  exact ⟨front, htokens⟩

theorem evaluate_of_compile {predicate : Predicate} {table : SymbolTable}
    (h : Predicate.compile name source = .ok predicate) :
    evaluate name source table = (predicate.evaluate table).mapError .eval := by
  rw [evaluate, h]

theorem exists_of_evaluate_eval {table : SymbolTable} {error : EvalError}
    (h : evaluate name source table = .error (.eval error)) :
    ∃ predicate, Predicate.compile name source = .ok predicate ∧
      predicate.evaluate table = .error error := by
  cases hcompile : Predicate.compile name source with
  | error failure =>
      rw [evaluate, hcompile] at h
      cases h
      exact absurd hcompile (Predicate.compile_ne_eval error)
  | ok predicate =>
      rw [evaluate_of_compile hcompile] at h
      cases hvalue : predicate.evaluate table with
      | ok value =>
          rw [hvalue] at h
          cases h
      | error other =>
          rw [hvalue] at h
          cases h
          exact ⟨predicate, rfl, hvalue⟩

end Stages

/-! ## Causes of checks -/

/-- Compiling and testing the predicate has the outcome that the cause says. -/
def Cause.Accounts (name text : String) (table : SymbolTable) : Cause → Prop
  | .failed (.eval error) => ∃ predicate, Predicate.compile name text = .ok predicate ∧
      predicate.test table = .error error
  | .failed failure => Predicate.compile name text = .error failure
  | .unsatisfied => ∃ predicate, Predicate.compile name text = .ok predicate ∧
      predicate.test table = .ok false

section Causes

variable {name text : String} {table : SymbolTable} {cause : Cause}

theorem FailsWith.accounts (h : FailsWith name text table cause) :
    cause.Accounts name text table := by
  cases h with
  | lex hcompile => exact hcompile
  | parse hcompile => exact hcompile
  | eval hcompile hvalue => exact ⟨_, hcompile, Predicate.test_of_error hvalue⟩
  | notBoolean hcompile hvalue hkind =>
      exact ⟨_, hcompile, Predicate.test_of_not_bool hvalue hkind⟩
  | unsatisfied hcompile hvalue => exact ⟨_, hcompile, Predicate.test_of_bool hvalue⟩

theorem accounts_of_checkField {typeName : String} {value : Value} {error : CheckError}
    (h : checkField typeName name value text table = .error error) :
    error.cause.Accounts name text table := by
  rcases met_or_failsWith name text table with hmet | ⟨cause, hfails⟩
  · rw [checkField, failureCause?_of_met hmet] at h
    cases h
  · rw [checkField, failureCause?_of_failsWith hfails] at h
    cases h
    exact hfails.accounts

theorem Record.exists_accounts_of_check {record : Record} {error : CheckError}
    (h : record.check = .error error) :
    ∃ field ∈ record.fields, error.field = field.name ∧
      field.predicate = some error.predicate ∧
        error.cause.Accounts field.name error.predicate record.table := by
  obtain ⟨front, field, rest, hfields, -, hreports⟩ := checkFields_eq_error_iff.mp h
  obtain ⟨text, cause, hpredicate, hfails, rfl⟩ := hreports
  have hmem : field ∈ record.fields := by
    rw [hfields]
    exact List.mem_append_right front List.mem_cons_self
  exact ⟨field, hmem, rfl, hpredicate, hfails.accounts⟩

end Causes

/-! ## All stages -/

/-- Text is refused for a lexical fault only if its tokens end in that fault, and an error of
reading is no lexical fault. What compiles has tokens up to the end of the text, and only then there
can be errors of evaluation, none of them about the verdict. The causes that checks give are the
outcomes of compiling and testing the predicate. -/
theorem failures_filed_by_stage (name source : String) :
    (∀ cause, Predicate.compile name source = .error (.lex cause) → cause ≠ .unrecognized ∧
      ∃ front text, tokenize source = front ++ [⟨.error cause, text⟩]) ∧
    (∀ error, Predicate.compile name source = .error (.parse error) →
      ∀ cause, error ≠ .lex cause) ∧
    (∀ predicate, Predicate.compile name source = .ok predicate →
      ∃ front, tokenize source = front ++ [.eof]) ∧
    (∀ table error, evaluate name source table = .error (.eval error) →
      (∃ predicate, Predicate.compile name source = .ok predicate ∧
        predicate.evaluate table = .error error) ∧ ∀ kind, error ≠ .notBoolean kind) ∧
    (∀ (record : Record) error, record.check = .error error →
      ∃ field ∈ record.fields, error.field = field.name ∧
        field.predicate = some error.predicate ∧
          error.cause.Accounts field.name error.predicate record.table) ∧
    ∀ typeName value error, checkValue typeName value source = .error error →
      error.cause.Accounts placeholder source (SymbolTable.empty.bind placeholder value) := by
  refine ⟨?_, ?_, ?_, ?_, ?_, ?_⟩
  · intro cause h
    exact exists_tokens_of_parse_lex (parse_of_compile_lex h)
  · rintro error h cause rfl
    exact compile_ne_parse_lex cause h
  · intro predicate h
    exact exists_tokens_of_compile h
  · intro table error h
    obtain ⟨predicate, hcompile, hvalue⟩ := exists_of_evaluate_eval h
    refine ⟨⟨predicate, hcompile, hvalue⟩, ?_⟩
    rintro kind rfl
    exact eval_noVerdictError table predicate.expr kind hvalue
  · intro record error h
    exact record.exists_accounts_of_check h
  · intro typeName value error h
    exact accounts_of_checkField h

/-- The division in `1 / 0` fails in evaluation only, and the check of a value with it answers with
the error of testing it. The text `1 = 0` does not get so far: its tokens end in a fault. -/
theorem failures_filed_of_division_and_comparison :
    (∃ predicate, Predicate.compile "" "1 / 0" = .ok predicate ∧
      predicate.evaluate .empty = .error .divisionByZero) ∧
    Cause.Accounts placeholder "1 / 0" (SymbolTable.empty.bind placeholder (.int 3))
      (.failed (.eval .divisionByZero)) ∧
    ∃ front text, tokenize "1 = 0" = front ++ [⟨.error (.expected "=="), text⟩] := by
  have hquotient : tokenize "1 / 0" =
      [⟨.integer, "1"⟩, ⟨.slash, "/"⟩, ⟨.integer, "0"⟩, .eof] := by
    decide +kernel
  have hcomparison : tokenize "1 = 0" =
      [⟨.integer, "1"⟩, ⟨.error (.expected "=="), "="⟩] := by
    decide +kernel
  have hcompile : ∀ name, Predicate.compile name "1 / 0" =
      .ok ⟨name, "1 / 0", .binary (.integer "1") .div (.integer "0")⟩ := by
    intro name
    rw [Predicate.compile, hquotient]
    rfl
  have hevaluate : evaluate "" "1 / 0" .empty = .error (.eval .divisionByZero) := by
    rw [evaluate, hcompile]
    rfl
  have hcheck : checkValue "i64" (.int 3) "1 / 0" =
      .error ⟨"i64", "?", "3", "1 / 0", .failed (.eval .divisionByZero)⟩ := by
    rw [checkValue, checkField, failureCause?, hcompile]
    rfl
  have hlex : Predicate.compile "" "1 = 0" = .error (.lex (.expected "==")) := by
    rw [Predicate.compile, hcomparison]
    rfl
  obtain ⟨-, -, -, heval, -, hvalue⟩ := failures_filed_by_stage "" "1 / 0"
  obtain ⟨hfault, -⟩ := failures_filed_by_stage "" "1 = 0"
  exact ⟨(heval _ _ hevaluate).1, hvalue _ _ _ hcheck, (hfault _ hlex).2⟩

end FieldPredicate
