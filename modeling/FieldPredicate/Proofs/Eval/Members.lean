import FieldPredicate.Proofs.Check.StructureValue

/-!
# Members behind pointers

A selector follows all pointers before it looks for a member, so the value behind them answers as it
would if it were bound itself. `Selects` says which answer that is: the first field or the first
entry with the name, and otherwise the error that the value deserves.
-/

namespace FieldPredicate

/-! ## First parts -/

/-- The value of the first part with the key. -/
def FirstAt {κ : Type} (key : κ) (parts : List (κ × Value)) (value : Value) : Prop :=
  ∃ front rest, parts = front ++ (key, value) :: rest ∧ ∀ part ∈ front, part.1 ≠ key

section Parts

variable {κ : Type} {key first : κ} {value found : Value} {rest : List (κ × Value)}

theorem not_firstAt_nil : ¬ FirstAt key [] value := by
  rintro ⟨front, rest, hparts, -⟩
  simp at hparts

theorem firstAt_cons_self : FirstAt key ((key, found) :: rest) value ↔ found = value := by
  constructor
  · rintro ⟨front, after, hparts, hfront⟩
    cases front with
    | nil =>
        cases hparts
        rfl
    | cons part front =>
        cases hparts
        exact absurd rfl (hfront _ List.mem_cons_self)
  · rintro rfl
    exact ⟨[], rest, rfl, List.forall_mem_nil _⟩

theorem firstAt_cons_of_ne (h : first ≠ key) :
    FirstAt key ((first, found) :: rest) value ↔ FirstAt key rest value := by
  constructor
  · rintro ⟨front, after, hparts, hfront⟩
    cases front with
    | nil =>
        cases hparts
        exact absurd rfl h
    | cons part front =>
        cases hparts
        exact ⟨front, after, rfl, (List.forall_mem_cons.mp hfront).2⟩
  · rintro ⟨front, after, rfl, hfront⟩
    exact ⟨(first, found) :: front, after, rfl, List.forall_mem_cons.mpr ⟨h, hfront⟩⟩

end Parts

/-- The kinds with members, and the one that leads to a value that may have some. -/
def Kind.isSelectable : Kind → Bool
  | .struct | .map | .pointer => true
  | _ => false

namespace Value

section Lookup

variable {member : String} {value : Value}

theorem field?_eq_some_iff {fields : List (String × Value)} :
    field? fields member = some value ↔ FirstAt member fields value := by
  induction fields with
  | nil => exact iff_of_false nofun not_firstAt_nil
  | cons field rest ih =>
      obtain ⟨first, found⟩ := field
      rw [field?_cons]
      by_cases hfirst : first = member
      · subst hfirst
        rw [if_pos rfl, firstAt_cons_self, Option.some_inj]
      · rw [if_neg hfirst, ih, firstAt_cons_of_ne hfirst]

theorem field?_eq_none_iff {fields : List (String × Value)} :
    field? fields member = none ↔ ∀ field ∈ fields, field.1 ≠ member := by
  simp [field?]

/-- Entries with another key are skipped, whatever the kind of the key. -/
theorem atKey?_cons_of_ne {key : Value} (h : key ≠ .string member) (found : Value)
    (rest : List (Value × Value)) : atKey? ((key, found) :: rest) member = atKey? rest member := by
  cases key with
  | string text =>
      rw [atKey?, if_neg]
      rintro rfl
      exact h rfl
  | _ => rfl

theorem atKey?_eq_some_iff {entries : List (Value × Value)} :
    atKey? entries member = some value ↔ FirstAt (.string member) entries value := by
  induction entries with
  | nil => exact iff_of_false nofun not_firstAt_nil
  | cons entry rest ih =>
      obtain ⟨key, found⟩ := entry
      by_cases hkey : key = .string member
      · subst hkey
        rw [atKey?, if_pos rfl, firstAt_cons_self, Option.some_inj]
      · rw [atKey?_cons_of_ne hkey, ih, firstAt_cons_of_ne hkey]

theorem atKey?_eq_none_iff {entries : List (Value × Value)} :
    atKey? entries member = none ↔ ∀ entry ∈ entries, entry.1 ≠ .string member := by
  induction entries with
  | nil => simp [atKey?]
  | cons entry rest ih =>
      obtain ⟨key, found⟩ := entry
      by_cases hkey : key = .string member
      · subst hkey
        simp [atKey?]
      · rw [atKey?_cons_of_ne hkey, ih, List.forall_mem_cons]
        simp [hkey]

end Lookup

/-! ## Members of what is behind the pointers -/

/-- The answer of a selector on a value with no pointer to follow. -/
inductive Selects (object member : String) : Value → Except EvalError Value → Prop
  | field {id : Identity} {name : String} {fields : List (String × Value)} {value : Value} :
      FirstAt member fields value → Selects object member (.struct id name fields) (.ok value)
  | noField {id : Identity} {name : String} {fields : List (String × Value)} :
      (∀ field ∈ fields, field.1 ≠ member) →
      Selects object member (.struct id name fields) (.error (.memberNotFound object member))
  | entry {id : Identity} {entries : List (Value × Value)} {value : Value} :
      FirstAt (.string member) entries value →
      Selects object member (.map id entries) (.ok value)
  | noEntry {id : Identity} {entries : List (Value × Value)} :
      (∀ entry ∈ entries, entry.1 ≠ .string member) →
      Selects object member (.map id entries) (.error (.memberNotFound object member))
  | absentMap : Selects object member (.absent .map) (.error (.memberNotFound object member))
  | absentPointer : Selects object member (.absent .pointer) (.error .nilDereference)
  | memberless {value : Value} :
      value.kind.isSelectable = false →
      Selects object member value (.error (.invalidType "." value.kind))

section Select

variable {object member : String} {value : Value} {answer : Except EvalError Value}

theorem selects_select (hpointer : ∀ id target, value ≠ .pointer id target) :
    Selects object member value (value.select object member) := by
  cases value with
  | pointer id target => exact absurd rfl (hpointer id target)
  | struct id name fields =>
      rw [select]
      cases hfield : field? fields member with
      | none => exact .noField (field?_eq_none_iff.mp hfield)
      | some value => exact .field (field?_eq_some_iff.mp hfield)
  | map id entries =>
      rw [select]
      cases hentry : atKey? entries member with
      | none => exact .noEntry (atKey?_eq_none_iff.mp hentry)
      | some value => exact .entry (atKey?_eq_some_iff.mp hentry)
  | absent nilable =>
      cases nilable with
      | slice => exact .memberless rfl
      | map => exact .absentMap
      | pointer => exact .absentPointer
  | _ => exact .memberless rfl

theorem Selects.eq_select (h : Selects object member value answer) :
    value.select object member = answer := by
  cases h with
  | field hfield =>
      rw [select, field?_eq_some_iff.mpr hfield]
      rfl
  | noField hfields =>
      rw [select, field?_eq_none_iff.mpr hfields]
      rfl
  | entry hentry =>
      rw [select, atKey?_eq_some_iff.mpr hentry]
      rfl
  | noEntry hentries =>
      rw [select, atKey?_eq_none_iff.mpr hentries]
      rfl
  | absentMap => rfl
  | absentPointer => rfl
  | memberless hkind =>
      cases value with
      | struct | map | pointer => cases hkind
      | absent nilable =>
          cases nilable with
          | slice => rfl
          | map | pointer => cases hkind
      | _ => rfl

theorem select_eq_iff (hpointer : ∀ id target, value ≠ .pointer id target) :
    value.select object member = answer ↔ Selects object member value answer := by
  constructor
  · rintro rfl
    exact selects_select hpointer
  · exact Selects.eq_select

end Select

end Value

/-- The error with another object, if it is that the object lacks a member. -/
def EvalError.withObject (object : String) : EvalError → EvalError
  | .memberNotFound _ member => .memberNotFound object member
  | error => error

theorem Value.found_withObject (object other member : String) (found : Option Value) :
    select.found other member found =
      (select.found object member found).mapError (.withObject other) := by
  cases found <;> rfl

theorem Value.select_withObject (object other member : String) :
    ∀ value : Value, value.select other member =
      (value.select object member).mapError (.withObject other)
  | .pointer _ target => select_withObject object other member target
  | .struct .. | .map .. | .absent .map => found_withObject object other member _
  | .absent .pointer | .absent .slice | .nil | .bool _ | .int _ | .uint _ | .float32 _
  | .float64 _ | .string _ | .slice .. => rfl

/-! ## Selectors -/

section Selectors

variable {table : SymbolTable} {object member : String} {value : Value}

theorem eval_selector_of_get? (h : table.get? object = some value) :
    eval table (.selector object member) = value.select object member := by
  rw [eval_selector, evalSymbol, h]
  rfl

theorem eval_selector_bind (table : SymbolTable) (object member : String) (value : Value) :
    eval (table.bind object value) (.selector object member) = value.select object member :=
  eval_selector_of_get? (SymbolTable.get?_bind_self table object value)

theorem eval_deref_of_get? {id : Identity} {target : Value}
    (h : table.get? object = some (.pointer id target)) :
    eval table (.unary .deref (.symbol object)) = .ok target := by
  rw [eval, eval, evalSymbol, h]
  rfl

end Selectors

/-- A selector on a bound object answers as on what stands behind the pointers of the object, and
thus as on the value of `*` before the object: with the first field or the first string entry of the
name, with the object and the member where there is none, and with the kind of what has no members.
A pointer that is absent at the end is refused as such, and an unbound object by its name, but for
`nil`, which has a value and no members. -/
theorem selector_behind_pointers (table : SymbolTable) (object member : String) :
    (∀ value ids, table.get? object = some (value.behind ids) →
      eval table (.selector object member) =
          eval (table.bind object value) (.selector object member) ∧
        ((∀ id target, value ≠ .pointer id target) → ∀ answer,
          eval table (.selector object member) = answer ↔ value.Selects object member answer)) ∧
    (∀ id target, table.get? object = some (.pointer id target) →
      eval table (.unary .deref (.symbol object)) = .ok target ∧
        ∀ other, eval (table.bind other target) (.selector other member) =
          (eval table (.selector object member)).mapError (.withObject other)) ∧
    (table.get? object = none → object ≠ "nil" →
      eval table (.selector object member) = .error (.symbolNotFound object)) ∧
    (table.get? "nil" = none →
      eval table (.selector "nil" member) = .error (.invalidType "." .nil)) := by
  refine ⟨?_, ?_, ?_, ?_⟩
  · intro value ids hbound
    have hselect : eval table (.selector object member) = value.select object member := by
      rw [eval_selector_of_get? hbound, Value.select_behind]
    refine ⟨?_, ?_⟩
    · rw [hselect, eval_selector_bind]
    · intro hpointer answer
      rw [hselect, Value.select_eq_iff hpointer]
  · intro id target hbound
    refine ⟨eval_deref_of_get? hbound, ?_⟩
    intro other
    rw [eval_selector_bind, eval_selector_of_get? hbound]
    exact Value.select_withObject object other member target
  · intro hunbound hnil
    rw [eval_selector, evalSymbol, hunbound]
    simp only [if_neg hnil]
    rfl
  · intro hunbound
    rw [eval_selector, evalSymbol, hunbound]
    rfl

/-- The table does not bind `nil`, and yet a member of `nil` is not refused as one of an unbound
object. -/
theorem selector_of_unbound_nil :
    SymbolTable.empty.get? "nil" = none ∧
    eval .empty (.selector "nil" "x") = .error (.invalidType "." .nil) ∧
    eval .empty (.selector "nil" "x") ≠ .error (.symbolNotFound "nil") := by
  have heval : eval .empty (.selector "nil" "x") = .error (.invalidType "." .nil) := rfl
  refine ⟨rfl, heval, ?_⟩
  rw [heval]
  simp

/-- Behind two pointers a map is searched for the first string key `a`. The integer key and the
second entry of the same name are passed over. -/
theorem selector_behind_two_pointers :
    SymbolTable.get? (.ofList [("p", .pointer ⟨0⟩ (.pointer ⟨1⟩ (.map ⟨2⟩ [(.int 1, .bool false),
      (.string "a", .bool true), (.string "a", .nil)])))]) "p" =
        some (Value.behind (.map ⟨2⟩ [(.int 1, .bool false), (.string "a", .bool true),
          (.string "a", .nil)]) [⟨0⟩, ⟨1⟩]) ∧
    eval (.ofList [("p", .pointer ⟨0⟩ (.pointer ⟨1⟩ (.map ⟨2⟩ [(.int 1, .bool false),
      (.string "a", .bool true), (.string "a", .nil)])))]) (.selector "p" "a") =
        .ok (.bool true) ∧
    eval (.ofList [("p", .pointer ⟨0⟩ (.int 5))]) (.unary .deref (.symbol "p")) = .ok (.int 5) ∧
    eval .empty (.selector "p" "a") = .error (.symbolNotFound "p") ∧
    eval .empty (.selector "nil" "a") = .error (.invalidType "." .nil) := by
  have hbound : SymbolTable.get? (.ofList [("p", .pointer ⟨0⟩ (.pointer ⟨1⟩ (.map ⟨2⟩
      [(.int 1, .bool false), (.string "a", .bool true), (.string "a", .nil)])))]) "p" =
        some (Value.behind (.map ⟨2⟩ [(.int 1, .bool false), (.string "a", .bool true),
          (.string "a", .nil)]) [⟨0⟩, ⟨1⟩]) := rfl
  refine ⟨hbound, ?_, ?_, ?_, ?_⟩
  · obtain ⟨-, hselects⟩ := (selector_behind_pointers _ "p" "a").1 _ _ hbound
    refine (hselects nofun _).mpr (.entry ⟨[(.int 1, .bool false)], [(.string "a", .nil)], rfl, ?_⟩)
    simp
  · exact ((selector_behind_pointers _ "p" "a").2.1 _ _ rfl).1
  · exact (selector_behind_pointers .empty "p" "a").2.2.1 rfl (by decide)
  · exact (selector_behind_pointers .empty "p" "a").2.2.2 rfl

end FieldPredicate
