import FieldPredicate.Check
import FieldPredicate.Proofs.SymbolTable.LastBinding

/-!
# Checking stops at the first field that fails

A predicate is either met or fails with exactly one cause. Checking goes past the fields whose
predicates are met, or that have none, and stops at the first other field with an error about that
field alone. So the predicates behind it play no part.
-/

namespace FieldPredicate

/-! ## One predicate -/

section Predicate

variable {name text : String} {table : SymbolTable}

def Met (name text : String) (table : SymbolTable) : Prop :=
  ∃ predicate, Predicate.compile name text = .ok predicate ∧ predicate.test table = .ok true

/-- Why a predicate is not met: the first stage that fails decides the cause. -/
inductive FailsWith (name text : String) (table : SymbolTable) : Cause → Prop
  | lex {error : LexError} :
      Predicate.compile name text = .error (.lex error) →
      FailsWith name text table (.failed (.lex error))
  | parse {error : ParseError} :
      Predicate.compile name text = .error (.parse error) →
      FailsWith name text table (.failed (.parse error))
  | eval {predicate : Predicate} {error : EvalError} :
      Predicate.compile name text = .ok predicate → predicate.evaluate table = .error error →
      FailsWith name text table (.failed (.eval error))
  | notBoolean {predicate : Predicate} {value : Value} :
      Predicate.compile name text = .ok predicate → predicate.evaluate table = .ok value →
      value.kind ≠ .bool → FailsWith name text table (.failed (.eval (.notBoolean value.kind)))
  | unsatisfied {predicate : Predicate} :
      Predicate.compile name text = .ok predicate →
      predicate.evaluate table = .ok (.bool false) → FailsWith name text table .unsatisfied

theorem Failure.ofParse_ne_eval (error : ParseError) (e : EvalError) :
    Failure.ofParse error ≠ .eval e := by
  cases error <;> simp [ofParse]

theorem Predicate.exists_of_compile_error {failure : Failure}
    (h : compile name text = .error failure) :
    ∃ error, Expr.parse (tokenize text) = .error error ∧ failure = .ofParse error := by
  unfold compile at h
  cases hparse : Expr.parse (tokenize text) with
  | ok expr =>
      rw [hparse] at h
      cases h
  | error error =>
      rw [hparse] at h
      cases h
      exact ⟨error, rfl, rfl⟩

theorem Predicate.compile_ne_eval (e : EvalError) : compile name text ≠ .error (.eval e) := by
  intro h
  obtain ⟨error, -, hfailure⟩ := exists_of_compile_error h
  exact Failure.ofParse_ne_eval error e hfailure.symm

section Test

variable {predicate : Predicate}

theorem Predicate.test_of_bool {verdict : Bool}
    (h : predicate.evaluate table = .ok (.bool verdict)) : predicate.test table = .ok verdict := by
  rw [test, h]

theorem Predicate.test_of_not_bool {value : Value} (h : predicate.evaluate table = .ok value)
    (hkind : value.kind ≠ .bool) : predicate.test table = .error (.notBoolean value.kind) := by
  rw [test, h]
  cases value with
  | bool => exact absurd rfl hkind
  | _ => rfl

theorem Predicate.test_of_error {error : EvalError} (h : predicate.evaluate table = .error error) :
    predicate.test table = .error error := by
  rw [test, h]

theorem Predicate.test_eq_ok_iff {verdict : Bool} :
    predicate.test table = .ok verdict ↔ predicate.evaluate table = .ok (.bool verdict) := by
  constructor
  · intro h
    cases hvalue : predicate.evaluate table with
    | error error =>
        rw [test_of_error hvalue] at h
        cases h
    | ok value =>
        by_cases hkind : value.kind = .bool
        · obtain ⟨b, rfl⟩ := Value.exists_eq_bool hkind
          rw [test_of_bool hvalue] at h
          cases h
          rfl
        · rw [test_of_not_bool hvalue hkind] at h
          cases h
  · exact test_of_bool

end Test

theorem failureCause?_of_met (h : Met name text table) : failureCause? name text table = none := by
  obtain ⟨predicate, hcompile, htest⟩ := h
  simp [failureCause?, hcompile, htest]

theorem failureCause?_of_failsWith {cause : Cause} (h : FailsWith name text table cause) :
    failureCause? name text table = some cause := by
  cases h with
  | lex hcompile => simp [failureCause?, hcompile]
  | parse hcompile => simp [failureCause?, hcompile]
  | eval hcompile hvalue => simp [failureCause?, hcompile, Predicate.test_of_error hvalue]
  | notBoolean hcompile hvalue hkind =>
      simp [failureCause?, hcompile, Predicate.test_of_not_bool hvalue hkind]
  | unsatisfied hcompile hvalue =>
      simp [failureCause?, hcompile, Predicate.test_of_bool hvalue]

theorem met_or_failsWith (name text : String) (table : SymbolTable) :
    Met name text table ∨ ∃ cause, FailsWith name text table cause := by
  cases hcompile : Predicate.compile name text with
  | error failure =>
      right
      cases failure with
      | lex error => exact ⟨_, .lex hcompile⟩
      | parse error => exact ⟨_, .parse hcompile⟩
      | eval error => exact absurd hcompile (Predicate.compile_ne_eval error)
  | ok predicate =>
      cases hvalue : predicate.evaluate table with
      | error error => exact .inr ⟨_, .eval hcompile hvalue⟩
      | ok value =>
          by_cases hkind : value.kind = .bool
          · obtain ⟨verdict, rfl⟩ := Value.exists_eq_bool hkind
            cases verdict with
            | true => exact .inl ⟨predicate, hcompile, Predicate.test_of_bool hvalue⟩
            | false => exact .inr ⟨_, .unsatisfied hcompile hvalue⟩
          · exact .inr ⟨_, .notBoolean hcompile hvalue hkind⟩

theorem FailsWith.not_met {cause : Cause} (h : FailsWith name text table cause) :
    ¬ Met name text table := by
  intro hmet
  have hcause := failureCause?_of_failsWith h
  rw [failureCause?_of_met hmet] at hcause
  cases hcause

end Predicate

/-! ## One field -/

namespace Field

variable {typeName : String} {field : Field} {table : SymbolTable} {error : CheckError}

def binding (field : Field) : String × Value :=
  (field.name, field.value)

def Passes (field : Field) (table : SymbolTable) : Prop :=
  ∀ text, field.predicate = some text → Met field.name text table

/-- The error that the field's own predicate, name and value make up. -/
def Reports (typeName : String) (field : Field) (table : SymbolTable) (error : CheckError) :
    Prop :=
  ∃ text cause, field.predicate = some text ∧ FailsWith field.name text table cause ∧
    error = ⟨typeName, field.name, field.value.render, text, cause⟩

theorem passes_or_reports (typeName : String) (field : Field) (table : SymbolTable) :
    field.Passes table ∨ ∃ error, field.Reports typeName table error := by
  cases hpredicate : field.predicate with
  | none =>
      left
      intro text htext
      rw [hpredicate] at htext
      cases htext
  | some text =>
      rcases met_or_failsWith field.name text table with hmet | ⟨cause, hfails⟩
      · left
        intro other hother
        rw [hpredicate] at hother
        cases hother
        exact hmet
      · exact .inr ⟨_, text, cause, hpredicate, hfails, rfl⟩

end Field

/-! ## All fields in their order -/

namespace Record

section Steps

variable {typeName : String} {table : SymbolTable} {field : Field} {front : List Field}
  {error : CheckError}

theorem checkFields_cons_of_passes (h : field.Passes table) (rest : List Field) :
    checkFields typeName table (field :: rest) = checkFields typeName table rest := by
  rw [checkFields]
  cases hpredicate : field.predicate with
  | none => rfl
  | some text => simp [checkField, failureCause?_of_met (h text hpredicate)]

theorem checkFields_cons_of_reports (h : field.Reports typeName table error) (rest : List Field) :
    checkFields typeName table (field :: rest) = .error error := by
  obtain ⟨text, cause, hpredicate, hfails, rfl⟩ := h
  simp [checkFields, hpredicate, checkField, failureCause?_of_failsWith hfails]

theorem checkFields_append_of_passes (h : ∀ field ∈ front, field.Passes table)
    (rest : List Field) :
    checkFields typeName table (front ++ rest) = checkFields typeName table rest := by
  induction front with
  | nil => rfl
  | cons field front ih =>
      obtain ⟨hhead, htail⟩ := List.forall_mem_cons.mp h
      rw [List.cons_append, checkFields_cons_of_passes hhead, ih htail]

end Steps

/-- The field is the first of the fields that fails, with this error. -/
def FailsFirst (typeName : String) (table : SymbolTable) (fields : List Field)
    (error : CheckError) : Prop :=
  ∃ front field rest, fields = front ++ field :: rest ∧ (∀ f ∈ front, f.Passes table) ∧
    field.Reports typeName table error

section Fields

variable {typeName : String} {table : SymbolTable} {fields : List Field} {error : CheckError}

theorem checkFields_of_passes (h : ∀ field ∈ fields, field.Passes table) :
    checkFields typeName table fields = .ok () := by
  have happend : checkFields typeName table (fields ++ []) = checkFields typeName table [] :=
    checkFields_append_of_passes h []
  rw [List.append_nil] at happend
  exact happend

theorem checkFields_of_failsFirst (h : FailsFirst typeName table fields error) :
    checkFields typeName table fields = .error error := by
  obtain ⟨front, field, rest, rfl, hfront, hfield⟩ := h
  rw [checkFields_append_of_passes hfront, checkFields_cons_of_reports hfield]

theorem passes_or_failsFirst (typeName : String) (table : SymbolTable) (fields : List Field) :
    (∀ field ∈ fields, field.Passes table) ∨ ∃ error, FailsFirst typeName table fields error := by
  induction fields with
  | nil => exact .inl (by simp)
  | cons field rest ih =>
      rcases field.passes_or_reports typeName table with hpasses | ⟨error, hreports⟩
      · rcases ih with hrest | ⟨error, front, other, after, rfl, hfront, hother⟩
        · exact .inl (List.forall_mem_cons.mpr ⟨hpasses, hrest⟩)
        · refine .inr ⟨error, field :: front, other, after, rfl, ?_, hother⟩
          exact List.forall_mem_cons.mpr ⟨hpasses, hfront⟩
      · exact .inr ⟨error, [], field, rest, rfl, by simp, hreports⟩

theorem checkFields_eq_ok_iff :
    checkFields typeName table fields = .ok () ↔ ∀ field ∈ fields, field.Passes table := by
  constructor
  · intro h
    rcases passes_or_failsFirst typeName table fields with hpasses | ⟨error, hfails⟩
    · exact hpasses
    · rw [checkFields_of_failsFirst hfails] at h
      cases h
  · exact checkFields_of_passes

theorem checkFields_eq_error_iff :
    checkFields typeName table fields = .error error ↔
      FailsFirst typeName table fields error := by
  constructor
  · intro h
    rcases passes_or_failsFirst typeName table fields with hpasses | ⟨other, hfails⟩
    · rw [checkFields_of_passes hpasses] at h
      cases h
    · rw [checkFields_of_failsFirst hfails] at h
      cases h
      exact hfails
  · exact checkFields_of_failsFirst

/-- A failure among the first fields is reported whatever fields follow. -/
theorem checkFields_append_of_error (h : checkFields typeName table fields = .error error)
    (rest : List Field) : checkFields typeName table (fields ++ rest) = .error error := by
  obtain ⟨front, field, after, rfl, hfront, hfield⟩ := checkFields_eq_error_iff.mp h
  apply checkFields_of_failsFirst
  exact ⟨front, field, after ++ rest, by simp, hfront, hfield⟩

end Fields

/-- Tables bind each name to the value of its last field. A structure is valid exactly if all its
predicates are met on that table, and otherwise the first field that fails is reported. Other
predicates on the fields behind it change nothing. -/
theorem check_reports_first_failure (record : Record) :
    (∀ name, record.table.get? name = SymbolTable.last? (record.fields.map Field.binding) name) ∧
    (record.check = .ok () ↔ ∀ field ∈ record.fields, field.Passes record.table) ∧
    (∀ error, record.check = .error error ↔
      FailsFirst record.typeName record.table record.fields error) ∧
    ∀ front rest others : List Field,
      record.fields = front ++ rest → (∃ field ∈ front, ¬ field.Passes record.table) →
        others.map Field.binding = rest.map Field.binding →
          Record.check ⟨record.typeName, front ++ others⟩ = record.check := by
  refine ⟨?_, checkFields_eq_ok_iff, fun error => checkFields_eq_error_iff, ?_⟩
  · intro name
    exact SymbolTable.get?_ofList (record.fields.map Field.binding) name
  · rintro front rest others hfields ⟨field, hmem, hfield⟩ hbindings
    have htable : Record.table ⟨record.typeName, front ++ others⟩ = record.table := by
      have hmap : (front ++ others).map Field.binding = record.fields.map Field.binding := by
        rw [hfields, List.map_append, List.map_append, hbindings]
      exact congrArg SymbolTable.ofList hmap
    obtain ⟨error, hfails⟩ : ∃ error, checkFields record.typeName record.table front =
        .error error := by
      cases hcheck : checkFields record.typeName record.table front with
      | ok => exact absurd (checkFields_eq_ok_iff.mp hcheck field hmem) hfield
      | error error => exact ⟨error, rfl⟩
    rw [check, check, htable, hfields, checkFields_append_of_error hfails,
      checkFields_append_of_error hfails]

/-- Of two fields `high` the later one counts, and that its predicate cannot be read plays no part
for the field before it. -/
theorem check_low_before_unreadable_high :
    Record.check ⟨"Span", [⟨"low", .int 3, some "low <= high"⟩, ⟨"high", .int 5, none⟩,
        ⟨"high", .int 2, some "high >"⟩]⟩ =
      .error ⟨"Span", "low", "3", "low <= high", .unsatisfied⟩ ∧
    Record.check ⟨"Span", [⟨"low", .int 3, some "low <= high"⟩, ⟨"high", .int 5, some "true"⟩,
        ⟨"high", .int 2, none⟩]⟩ =
      .error ⟨"Span", "low", "3", "low <= high", .unsatisfied⟩ := by
  have hspan := check_reports_first_failure ⟨"Span", [⟨"low", .int 3, some "low <= high"⟩,
    ⟨"high", .int 5, none⟩, ⟨"high", .int 2, some "high >"⟩]⟩
  obtain ⟨-, -, herror, hothers⟩ := hspan
  have htokens : tokenize "low <= high" =
      [⟨.symbol, "low"⟩, ⟨.lessEqual, "<="⟩, ⟨.symbol, "high"⟩, .eof] := by
    decide +kernel
  have hcompile : Predicate.compile "low" "low <= high" =
      .ok ⟨"low", "low <= high", .binary (.symbol "low") .lessEqual (.symbol "high")⟩ := by
    rw [Predicate.compile, htokens]
    rfl
  have hfails : FailsWith "low" "low <= high" (Record.table ⟨"Span",
      [⟨"low", .int 3, some "low <= high"⟩, ⟨"high", .int 5, none⟩,
        ⟨"high", .int 2, some "high >"⟩]⟩) .unsatisfied :=
    .unsatisfied hcompile rfl
  have hcheck := (herror ⟨"Span", "low", "3", "low <= high", .unsatisfied⟩).mpr
    ⟨[], _, _, rfl, by simp, _, _, rfl, hfails, rfl⟩
  refine ⟨hcheck, ?_⟩
  rw [← hcheck]
  apply hothers [⟨"low", .int 3, some "low <= high"⟩] _ _ rfl
  · refine ⟨_, List.mem_singleton_self _, ?_⟩
    intro hpasses
    exact hfails.not_met (hpasses _ rfl)
  · rfl

end Record

end FieldPredicate
