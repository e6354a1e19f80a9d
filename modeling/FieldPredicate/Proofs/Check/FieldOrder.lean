import FieldPredicate.Proofs.Check.FailFast
import FieldPredicate.Proofs.Check.StructureValue
import FieldPredicate.Proofs.SymbolTable.BindingOrder
import Mathlib.Data.List.Nodup

/-!
# The order of fields

Fields with distinct names are bound to the same table in every order. So each field passes or fails
by itself, with an error of its own, and the order decides only which of the failing fields comes
first and is reported.
-/

namespace FieldPredicate

section Field

variable {typeName : String} {field : Field} {table : SymbolTable} {error : CheckError}

theorem Field.Reports.name_eq (h : field.Reports typeName table error) :
    error.field = field.name := by
  obtain ⟨text, cause, -, -, rfl⟩ := h
  rfl

theorem Field.Reports.checkFields_alone (h : field.Reports typeName table error) :
    Record.checkFields typeName table [field] = .error error :=
  Record.checkFields_cons_of_reports h []

end Field

namespace Record

section Order

variable {record : Record} {fields : List Field}

theorem table_perm (hperm : fields.Perm record.fields) (hnames : record.names.Nodup)
    (typeName : String) : table ⟨typeName, fields⟩ = record.table := by
  apply SymbolTable.ofList_perm (hperm.map _)
  rw [List.map_map]
  exact (hperm.map _).nodup_iff.mpr hnames

theorem eq_of_name_eq (hnames : record.names.Nodup) {field other : Field}
    (hfield : field ∈ record.fields) (hother : other ∈ record.fields)
    (h : other.name = field.name) : other = field :=
  List.inj_on_of_nodup_map hnames hother hfield h

/-- A structure whose fields have distinct names is valid exactly if it is valid with its fields in
another order. The error in the other order is that of its first field that fails in the table of
the structure, and it is what the structure reports of that field, the only one of its name, by
itself. -/
theorem check_perm (hperm : fields.Perm record.fields) (hnames : record.names.Nodup) :
    (check ⟨record.typeName, fields⟩ = .ok () ↔ record.check = .ok ()) ∧
    (∀ error, check ⟨record.typeName, fields⟩ = .error error ↔
      FailsFirst record.typeName record.table fields error) ∧
    ∀ error, check ⟨record.typeName, fields⟩ = .error error →
      ∃ field ∈ record.fields, (∀ other ∈ record.fields, other.name = error.field ↔ other = field) ∧
        checkFields record.typeName record.table [field] = .error error := by
  have hcheck : check ⟨record.typeName, fields⟩ =
      checkFields record.typeName record.table fields := by
    rw [check, table_perm hperm hnames]
  rw [hcheck]
  refine ⟨?_, fun error => checkFields_eq_error_iff, ?_⟩
  · rw [check, checkFields_eq_ok_iff, checkFields_eq_ok_iff]
    simp only [hperm.mem_iff]
  · intro error herror
    obtain ⟨front, field, rest, rfl, -, hreports⟩ := checkFields_eq_error_iff.mp herror
    have hfield : field ∈ record.fields := hperm.mem_iff.mp (by simp)
    refine ⟨field, hfield, ?_, hreports.checkFields_alone⟩
    intro other hother
    rw [hreports.name_eq]
    constructor
    · exact eq_of_name_eq hnames hfield hother
    · rintro rfl
      rfl

end Order

/-- `low` fails before the predicate of `high` is tested. With `high` in front it is reported, for
the operand of `&&` that is no boolean. -/
theorem check_high_before_low :
    Record.check ⟨"Span", [⟨"low", .int 3, some "low <= high"⟩,
        ⟨"high", .int 2, some "high && 1"⟩]⟩ =
      .error ⟨"Span", "low", "3", "low <= high", .unsatisfied⟩ ∧
    Record.check ⟨"Span", [⟨"high", .int 2, some "high && 1"⟩,
        ⟨"low", .int 3, some "low <= high"⟩]⟩ =
      .error ⟨"Span", "high", "2", "high && 1", .failed (.eval (.invalidType "&&" .int))⟩ := by
  have hlowTokens : tokenize "low <= high" =
      [⟨.symbol, "low"⟩, ⟨.lessEqual, "<="⟩, ⟨.symbol, "high"⟩, .eof] := by
    decide +kernel
  have hhighTokens : tokenize "high && 1" =
      [⟨.symbol, "high"⟩, ⟨.logicalAnd, "&&"⟩, ⟨.integer, "1"⟩, .eof] := by
    decide +kernel
  have hlow : Predicate.compile "low" "low <= high" =
      .ok ⟨"low", "low <= high", .binary (.symbol "low") .lessEqual (.symbol "high")⟩ := by
    rw [Predicate.compile, hlowTokens]
    rfl
  have hhigh : Predicate.compile "high" "high && 1" =
      .ok ⟨"high", "high && 1", .binary (.symbol "high") .and (.integer "1")⟩ := by
    rw [Predicate.compile, hhighTokens]
    rfl
  obtain ⟨-, herror, -⟩ := @check_perm ⟨"Span", [⟨"low", .int 3, some "low <= high"⟩,
    ⟨"high", .int 2, some "high && 1"⟩]⟩ _ (List.Perm.swap _ _ []) (by decide)
  constructor
  · apply checkFields_of_failsFirst
    exact ⟨[], _, _, rfl, by simp, _, _, rfl, .unsatisfied hlow rfl, rfl⟩
  · exact (herror _).mpr ⟨[], _, _, rfl, by simp, _, _, rfl, .eval hhigh rfl, rfl⟩

end Record

end FieldPredicate
