import FieldPredicate.Expr.Names
import FieldPredicate.Proofs.Eval.KindDirected
import Mathlib.Logic.Relation

/-!
# Evaluation hands on payloads

No operation makes a payload. The operators between operands only yield scalars, and so do those
before an operand, except that `*` hands on the target of a pointer. Selectors hand on fields and
entries. By induction over the expression, every payload that evaluation comes to lies in what the
table binds to one of the names of the expression.
-/

namespace FieldPredicate

/-! ## What expressions can follow -/

namespace Value

/-- The second value is the target, a field or an entry of the first one. Items of slices and keys
of maps are no such values, since no expression gets hold of them. -/
inductive Follows : Value → Value → Prop
  | target {id : Identity} {value : Value} : Follows (.pointer id value) value
  | field {id : Identity} {name : String} {fields : List (String × Value)}
      {field : String × Value} : field ∈ fields → Follows (.struct id name fields) field.2
  | entry {id : Identity} {entries : List (Value × Value)} {entry : Value × Value} :
      entry ∈ entries → Follows (.map id entries) entry.2

section Select

variable {object member : String} {value : Value}

theorem Follows.of_field? {fields : List (String × Value)} (h : field? fields member = some value)
    (id : Identity) (name : String) : Follows (.struct id name fields) value := by
  obtain ⟨field, hfind, rfl⟩ := Option.map_eq_some_iff.mp h
  exact .field (List.mem_of_find?_eq_some hfind)

theorem exists_mem_of_atKey? {entries : List (Value × Value)}
    (h : atKey? entries member = some value) : ∃ entry ∈ entries, entry.2 = value := by
  fun_induction atKey? entries member with
  | case1 => cases h
  | case2 => exact ⟨_, List.mem_cons_self, Option.some.inj h⟩
  | case3 key found rest _ ih | case4 entry rest _ ih =>
      obtain ⟨entry, hmem, heq⟩ := ih h
      exact ⟨entry, List.mem_cons_of_mem _ hmem, heq⟩

theorem Follows.of_atKey? {entries : List (Value × Value)}
    (h : atKey? entries member = some value) (id : Identity) : Follows (.map id entries) value := by
  obtain ⟨entry, hmem, rfl⟩ := exists_mem_of_atKey? h
  exact .entry hmem

theorem found_eq_ok {found : Option Value} (h : select.found object member found = .ok value) :
    found = some value := by
  cases found with
  | none => cases h
  | some other => rw [Except.ok.inj h]

/-- A selector follows all pointers and then a field or an entry. -/
theorem follows_select {start : Value} (h : start.select object member = .ok value) :
    Relation.ReflTransGen Follows start value := by
  fun_induction select object member start with
  | case1 id target ih => exact .head .target (ih h)
  | case2 => cases h
  | case3 id name fields => exact .single (.of_field? (found_eq_ok h) id name)
  | case4 id entries => exact .single (.of_atKey? (found_eq_ok h) id)
  | case5 => cases h
  | case6 => cases h

end Select

end Value

/-! ## Operations yield scalars -/

/-- Booleans, numbers and strings: the kinds, apart from the untyped `nil`, whose values neither
have a payload nor lack one. -/
def Kind.isScalar (kind : Kind) : Bool :=
  kind.isNumeric || kind = .bool || kind = .string

section Operations

variable {kind result : Kind} {value : Value}

theorem Value.identity?_of_isScalar (h : value.kind.isScalar = true) : value.identity? = none := by
  cases value with
  | absent n => rfl
  | slice | map | pointer | struct => cases h
  | _ => rfl

theorem Value.isScalar_or_nil_of_identity? (h : value.identity? = none) :
    value.kind.isScalar = true ∨ value = .nil ∨ ∃ n, value = .absent n := by
  cases value with
  | nil => exact .inr (.inl rfl)
  | absent n => exact .inr (.inr ⟨n, rfl⟩)
  | slice | map | pointer | struct => cases h
  | _ => exact .inl rfl

theorem isScalar_of_unaryKind {op : UnaryOp} (hop : op ≠ .deref)
    (h : unaryKind op kind = .ok result) : result.isScalar = true := by
  unfold unaryKind at h
  split at h
  · rename_i hdefined
    cases h
    cases op with
    | deref => exact absurd rfl hop
    | negate | identity =>
        simp only [UnaryOp.isDefinedOn, Bool.or_eq_true, decide_eq_true_eq] at hdefined
        rcases hdefined with (rfl | rfl) | rfl <;> rfl
    | not =>
        simp only [UnaryOp.isDefinedOn, decide_eq_true_eq] at hdefined
        rw [hdefined]
        rfl
  · cases h

theorem isScalar_of_operationKind {op : BinaryOp} (h : op.operationKind kind = .ok result) :
    result.isScalar = true := by
  unfold BinaryOp.operationKind at h
  split at h
  · rename_i hdefined
    cases h
    cases hfamily : op.family with
    | arithmetic | bitwise =>
        simp only [BinaryOp.isDefinedOn, BinaryOp.resultKind, hfamily] at hdefined ⊢
        cases kind <;> simp [Kind.isScalar, Kind.isNumeric] at hdefined ⊢
    | equality | ordering | logic =>
        simp only [BinaryOp.resultKind, hfamily]
        rfl
  · cases h

theorem isScalar_of_binaryKind {op : BinaryOp} {left right : Kind}
    (h : binaryKind op left right = .ok result) : result.isScalar = true := by
  simp only [binaryKind] at h
  split at h
  · exact isScalar_of_operationKind h
  · cases h

theorem identity?_evalBinary {op : BinaryOp} {left right : Value}
    (h : evalBinary op left right = .ok value) : value.identity? = none := by
  have hconforms : Conforms (binaryKind op left.kind right.kind) (evalBinary op left right) :=
    evalBinary_conforms left.ofKind right.ofKind
  rw [h] at hconforms
  exact Value.identity?_of_isScalar (isScalar_of_binaryKind hconforms.of_ok)

theorem eq_pointer_of_deref {operand : Value} (h : evalUnary .deref operand = .ok value) :
    ∃ id, operand = .pointer id value := by
  cases operand with
  | pointer id target => exact ⟨id, by rw [Except.ok.inj h]⟩
  | absent n => cases n <;> cases h
  | _ => cases h

/-- An operator before an operand has no payload as its value, or the target of a pointer. -/
theorem identity?_evalUnary {op : UnaryOp} {operand : Value}
    (h : evalUnary op operand = .ok value) :
    value.identity? = none ∨ ∃ id, operand = .pointer id value := by
  by_cases hop : op = .deref
  · subst hop
    exact .inr (eq_pointer_of_deref h)
  · have hconforms : Conforms (unaryKind op operand.kind) (evalUnary op operand) :=
      evalUnary_conforms hop operand.ofKind
    rw [h] at hconforms
    exact .inl (Value.identity?_of_isScalar (isScalar_of_unaryKind hop hconforms.of_ok))

end Operations

/-! ## Where payloads come from -/

/-- The value is reached from what the table binds to one of the names, by following pointers,
fields and entries any number of times. -/
def Traced (table : SymbolTable) (names : List String) (value : Value) : Prop :=
  ∃ name ∈ names, ∃ source, table.get? name = some source ∧
    Relation.ReflTransGen Value.Follows source value

section Traced

variable {table : SymbolTable} {value : Value}

theorem evalSymbol_eq_ok {name : String} (h : evalSymbol table name = .ok value) :
    table.get? name = some value ∨ value = .nil := by
  unfold evalSymbol at h
  cases hget : table.get? name with
  | some bound =>
      rw [hget] at h
      exact .inl (congrArg some (Except.ok.inj h))
  | none =>
      simp only [hget] at h
      split at h
      · exact .inr (Except.ok.inj h).symm
      · cases h

theorem traced_selector {object member : String}
    (h : evalSelector table object member = .ok value) : Traced table [object] value := by
  unfold evalSelector at h
  split at h
  · cases h
  · rename_i source hsource
    rcases evalSymbol_eq_ok hsource with hget | rfl
    · exact ⟨object, List.mem_singleton_self object, source, hget, Value.follows_select h⟩
    · cases h

/-- Whatever has a payload is traced, since only symbols, selectors and `*` yield one. -/
theorem identity?_eval {expr : Expr} (h : eval table expr = .ok value) :
    value.identity? = none ∨ Traced table expr.names value := by
  induction expr generalizing value with
  | integer text =>
      rw [eval] at h
      cases hdecode : Literal.decode text with
      | error error =>
          rw [hdecode] at h
          cases h
      | ok n =>
          rw [hdecode] at h
          cases h
          exact .inl rfl
  | string | bool =>
      cases h
      exact .inl rfl
  | symbol name =>
      rcases evalSymbol_eq_ok h with hget | rfl
      · exact .inr ⟨name, List.mem_singleton_self name, value, hget, .refl⟩
      · exact .inl rfl
  | selector object member => exact .inr (traced_selector h)
  | unary op operand ih =>
      obtain ⟨a, hoperand, hvalue⟩ := exists_of_eval_unary h
      rcases identity?_evalUnary hvalue with hnone | ⟨id, rfl⟩
      · exact .inl hnone
      -- The operand is a pointer, so it has a payload that comes from a name.
      · have htraced := (ih hoperand).resolve_left (Option.some_ne_none id)
        obtain ⟨name, hmem, source, hget, hreaches⟩ := htraced
        exact .inr ⟨name, hmem, source, hget, hreaches.tail .target⟩
  | binary left op right =>
      obtain ⟨a, b, -, -, hvalue⟩ := exists_of_eval_binary h
      exact .inl (identity?_evalBinary hvalue)

end Traced

/-- A value with a payload is handed on as it is, with its identity, from the binding of a name of
the expression. All other results are scalars, the untyped `nil` or absent payloads. -/
theorem eval_hands_on_payloads {table : SymbolTable} {expr : Expr} {value : Value}
    (h : eval table expr = .ok value) :
    (∀ id, value.identity? = some id → Traced table expr.names value) ∧
    (value.identity? = none →
      value.kind.isScalar = true ∨ value = .nil ∨ ∃ n, value = .absent n) := by
  constructor
  · intro id hidentity
    apply (identity?_eval h).resolve_left
    rw [hidentity]
    exact Option.some_ne_none id
  · intro hnone
    exact Value.isScalar_or_nil_of_identity? hnone

/-- The slice behind a pointer in a field is reached by the field and the pointer. -/
theorem eval_target_of_field :
    eval (.ofList [("s", .struct ⟨0⟩ "Box" [("items", .pointer ⟨1⟩ (.slice ⟨2⟩ [.int 7]))])])
        (.unary .deref (.selector "s" "items")) = .ok (.slice ⟨2⟩ [.int 7]) ∧
    Traced
      (.ofList [("s", .struct ⟨0⟩ "Box" [("items", .pointer ⟨1⟩ (.slice ⟨2⟩ [.int 7]))])])
      ["s"] (.slice ⟨2⟩ [.int 7]) := by
  have heval : eval
      (.ofList [("s", .struct ⟨0⟩ "Box" [("items", .pointer ⟨1⟩ (.slice ⟨2⟩ [.int 7]))])])
      (.unary .deref (.selector "s" "items")) = .ok (.slice ⟨2⟩ [.int 7]) := rfl
  obtain ⟨htraced, -⟩ := eval_hands_on_payloads heval
  exact ⟨heval, htraced ⟨2⟩ rfl⟩

end FieldPredicate
