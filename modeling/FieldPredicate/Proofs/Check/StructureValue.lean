import FieldPredicate.Check
import FieldPredicate.Proofs.Eval.Substitution

/-!
# Structures as tables and as values

Checking a structure binds its fields in a table, and within other values the structure is a value
with members. A name that occurs twice is the last field for the table and the first one for the
value. Where the names are distinct both find the same field, the value also behind pointers. So an
expression over the fields has one answer, whether it names them or selects them.
-/

namespace FieldPredicate

/-! ## One field -/

theorem Value.field?_cons (first : String) (value : Value) (fields : List (String × Value))
    (name : String) :
    field? ((first, value) :: fields) name =
      if first = name then some value else field? fields name := by
  by_cases hname : first = name <;> simp [field?, hname]

/-- Without a second field of one name, the first and the last one are the same. -/
theorem Value.field?_eq_last? {fields : List (String × Value)} (h : (fields.map (·.1)).Nodup)
    (name : String) : field? fields name = SymbolTable.last? fields name := by
  induction fields with
  | nil => rfl
  | cons field rest ih =>
      obtain ⟨first, value⟩ := field
      obtain ⟨hfirst, hrest⟩ := List.nodup_cons.mp h
      rw [field?_cons, SymbolTable.last?_cons, ih hrest]
      by_cases hname : first = name
      · rw [if_pos hname, if_pos hname, ← hname, SymbolTable.last?_eq_none_iff.mpr hfirst]
        rfl
      · rw [if_neg hname, if_neg hname, Option.or_none]

/-- The value behind pointers with these identities, the outermost one first. -/
def Value.behind (value : Value) (ids : List Identity) : Value :=
  ids.foldr .pointer value

theorem Value.select_behind (object member : String) (value : Value) (ids : List Identity) :
    (value.behind ids).select object member = value.select object member := by
  induction ids with
  | nil => rfl
  | cons id rest ih => exact ih

/-! ## Expressions over fields -/

/-- The expression with members of the placeholder in the place of the symbols that name fields. -/
def Expr.selectFields (names : List String) (e : Expr) : Expr :=
  e.replace fun name => if name ∈ names then .selector placeholder name else .symbol name

namespace Record

variable {record : Record} {name : String}

def names (record : Record) : List String :=
  record.fields.map (·.name)

theorem get?_table (hdistinct : record.names.Nodup) {field : Field}
    (hfield : field ∈ record.fields) : record.table.get? field.name = some field.value := by
  have hmem : (field.name, field.value) ∈
      record.fields.map fun field => (field.name, field.value) :=
    List.mem_map.mpr ⟨field, hfield, rfl⟩
  rw [table, SymbolTable.get?_ofList]
  refine SymbolTable.last?_of_mem ?_ hmem
  rw [List.map_map]
  exact hdistinct

/-- The structure value has a member for each field, which is what the table binds. -/
theorem select_toValue (hdistinct : record.names.Nodup) (hname : name ∈ record.names)
    (id : Identity) (object : String) :
    (record.toValue id).select object name = evalSymbol record.table name := by
  obtain ⟨field, hfield, rfl⟩ := List.mem_map.mp hname
  have hbound := get?_table hdistinct hfield
  have hmember : Value.field? (record.fields.map fun field => (field.name, field.value))
      field.name = some field.value := by
    rw [Value.field?_eq_last?, ← SymbolTable.get?_ofList]
    · exact hbound
    · rw [List.map_map]
      exact hdistinct
  rw [toValue, Value.select, hmember, evalSymbol, hbound]
  rfl

theorem eval_selector_behind (hdistinct : record.names.Nodup) (hname : name ∈ record.names)
    (id : Identity) (ids : List Identity) :
    eval (SymbolTable.empty.bind placeholder ((record.toValue id).behind ids))
        (.selector placeholder name) = evalSymbol record.table name := by
  rw [eval, evalSelector, evalSymbol_bind_self, ← select_toValue hdistinct hname id placeholder]
  exact Value.select_behind placeholder name (record.toValue id) ids

/-- An expression without selectors over distinct fields and `nil` has the answer on the table of
the structure that it has on the structure value, behind any pointers, when it selects the
fields. -/
theorem eval_selectFields {e : Expr} (hdistinct : record.names.Nodup) (hobjects : e.objects = [])
    (hsymbols : ∀ name ∈ e.symbols, name ∈ record.names ∨ name = "nil") (id : Identity)
    (ids : List Identity) :
    eval (SymbolTable.empty.bind placeholder ((record.toValue id).behind ids))
        (e.selectFields record.names) = eval record.table e := by
  apply eval_replace
  · intro name hmem
    by_cases hname : name ∈ record.names
    · rw [if_pos hname]
      exact eval_selector_behind hdistinct hname id ids
    · -- The symbol is `nil`, which neither table binds.
      obtain rfl : name = "nil" := (hsymbols name hmem).resolve_left hname
      have hunbound : record.table.get? "nil" = none := by
        rw [table, SymbolTable.get?_ofList]
        apply SymbolTable.last?_eq_none_iff.mpr
        rw [List.map_map]
        exact hname
      rw [if_neg hname, eval]
      apply evalSymbol_congr
      rw [hunbound, SymbolTable.get?_bind_of_ne _ _ (by decide), SymbolTable.get?_empty]
  · rw [hobjects]
    exact List.forall_mem_nil _

/-- A link of a list, seen through two pointers, has a successor as it has on its own table. -/
theorem eval_selectFields_link :
    eval (SymbolTable.empty.bind "?" (.pointer ⟨7⟩ (.pointer ⟨8⟩
        (.struct ⟨9⟩ "Link" [("size", .int 3), ("next", .pointer ⟨1⟩ (.int 4))]))))
      (.binary (.binary (.selector "?" "size") .less (.integer "5")) .and
        (.binary (.selector "?" "next") .notEqual (.symbol "nil"))) = .ok (.bool true) := by
  have heval := @eval_selectFields
    ⟨"Link", [⟨"size", .int 3, some "size < 5"⟩, ⟨"next", .pointer ⟨1⟩ (.int 4), none⟩]⟩
    (.binary (.binary (.symbol "size") .less (.integer "5")) .and
      (.binary (.symbol "next") .notEqual (.symbol "nil")))
    (by decide) rfl (by decide) ⟨9⟩ [⟨7⟩, ⟨8⟩]
  apply heval.trans
  rfl

end Record

end FieldPredicate
