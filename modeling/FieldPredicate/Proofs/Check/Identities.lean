import FieldPredicate.Proofs.Eval.Renaming
import FieldPredicate.Proofs.Host.Numbering

/-!
# Checking does not look at identities

A structure with other identities in its fields is checked with the same outcome, down to the text
of every error. Structures with the same contents that share alike differ in nothing else, and so
do the values that two runs make of the same data.
-/

namespace FieldPredicate

variable {r : Identity → Identity}

/-! ## Predicates on renamed tables -/

section Renamed

variable {table other : SymbolTable}

theorem Predicate.test_renamed (hr : Function.Injective r) (h : table.Renamed r other)
    (predicate : Predicate) : predicate.test other = predicate.test table := by
  rw [test, test, evaluate, evaluate, eval_renamed hr h]
  cases eval table predicate.expr with
  | error error => rfl
  | ok value => cases value <;> rfl

theorem failureCause?_renamed (hr : Function.Injective r) (h : table.Renamed r other)
    (name text : String) :
    failureCause? name text other = failureCause? name text table := by
  simp only [failureCause?, Predicate.test_renamed hr h]

/-- The field with other identities in its value. -/
def Field.rename (r : Identity → Identity) (field : Field) : Field :=
  { field with value := field.value.rename r }

theorem checkFields_renamed (hr : Function.Injective r) (h : table.Renamed r other)
    (typeName : String) (fields : List Field) :
    Record.checkFields typeName other (fields.map (Field.rename r)) =
      Record.checkFields typeName table fields := by
  induction fields with
  | nil => rfl
  | cons field rest ih =>
      simp only [List.map_cons, Record.checkFields, Field.rename, checkField,
        failureCause?_renamed hr h, Value.render_rename, ih]

end Renamed

/-! ## Structures -/

namespace Record

/-- The structure with other identities in its fields. -/
def rename (r : Identity → Identity) (record : Record) : Record :=
  ⟨record.typeName, record.fields.map (Field.rename r)⟩

theorem renamed_table_rename (r : Identity → Identity) (record : Record) :
    record.table.Renamed r (record.rename r).table := by
  intro name
  rw [table, table, SymbolTable.get?_ofList, SymbolTable.get?_ofList, SymbolTable.last?,
    SymbolTable.last?, rename, List.map_map, ← List.map_reverse, ← List.map_reverse,
    List.find?_map, List.find?_map, Option.map_map, Option.map_map, Option.map_map]
  rfl

theorem check_rename (hr : Function.Injective r) (record : Record) :
    (record.rename r).check = record.check :=
  checkFields_renamed hr (renamed_table_rename r record) record.typeName record.fields

/-- The structure with one identity for all payloads, which leaves its contents. -/
def erase (record : Record) : Record :=
  record.rename fun _ => ⟨0⟩

def identities (record : Record) : List Identity :=
  record.fields.flatMap (·.value.identities)

/-- The structures have the same contents, and in the same places they share payloads. -/
structure SharesAs (first second : Record) : Prop where
  contents : first.erase = second.erase
  pattern : ShareAlike first.identities second.identities

theorem eq_map_rename {s : Identity → Identity} {first second : List Field}
    (hcontents : first.map (Field.rename s) = second.map (Field.rename s))
    (hids : second.flatMap (·.value.identities) = (first.flatMap (·.value.identities)).map r) :
    second = first.map (Field.rename r) := by
  induction first generalizing second with
  | nil =>
      cases second with
      | nil => rfl
      | cons => cases hcontents
  | cons field rest ih =>
      cases second with
      | nil => cases hcontents
      | cons field' rest' =>
          obtain ⟨name, value, predicate⟩ := field
          obtain ⟨name', value', predicate'⟩ := field'
          rw [List.map_cons, List.map_cons, List.cons.injEq, Field.rename, Field.rename,
            Field.mk.injEq] at hcontents
          obtain ⟨⟨hname, hvalue, hpredicate⟩, hrest⟩ := hcontents
          obtain ⟨hvalueIds, hrestIds⟩ := Value.split_identities hvalue hids
          rw [List.map_cons, ← ih hrest hrestIds, Field.rename, ← Value.eq_rename hvalue hvalueIds,
            hname, hpredicate]

theorem SharesAs.exists_rename {first second : Record} (h : first.SharesAs second) :
    ∃ r, Function.Injective r ∧ second = first.rename r := by
  obtain ⟨r, hr, hids⟩ := shareAlike_iff_exists_injective.mp h.pattern
  refine ⟨r, hr, ?_⟩
  have htypeName : second.typeName = first.typeName := (congrArg typeName h.contents).symm
  have hfields : second.fields = first.fields.map (Field.rename r) :=
    eq_map_rename (congrArg fields h.contents) hids
  calc
    second = ⟨second.typeName, second.fields⟩ := rfl
    _ = first.rename r := by rw [htypeName, hfields, rename]

theorem check_of_sharesAs {first second : Record} (h : first.SharesAs second) :
    second.check = first.check := by
  obtain ⟨r, hr, rfl⟩ := h.exists_rename
  exact check_rename hr first

end Record

/-! ## Structures of the host -/

theorem HostField.toFields_shift {first offset next : Nat} {fields : List HostField}
    (h : ∀ field ∈ fields, field.data.Below first) (hnext : first ≤ next) :
    toFields (next + offset) fields =
      (toFields next fields).map (Field.rename (Identity.shift first offset)) := by
  induction fields generalizing next with
  | nil => rfl
  | cons field rest ih =>
      obtain ⟨hfield, hrest⟩ := List.forall_mem_cons.mp h
      obtain ⟨hle, heq⟩ := HostValue.toValue_moves offset field.data hfield next hnext
      simp only [toFields, heq, ih hrest (Nat.le_trans hnext hle), List.map_cons, Field.rename]

theorem Record.check_ofHost {first next other : Nat} {fields : List HostField}
    (h : ∀ field ∈ fields, field.data.Below first) (hnext : first ≤ next) (hother : first ≤ other)
    (typeName : String) :
    (ofHost next typeName fields).check = (ofHost other typeName fields).check := by
  -- Both are as from the least number.
  have hleast : ∀ number, first ≤ number →
      (ofHost number typeName fields).check = (ofHost first typeName fields).check := by
    intro number hnumber
    obtain ⟨offset, rfl⟩ := Nat.exists_eq_add_of_le hnumber
    have hrename : ofHost (first + offset) typeName fields =
        (ofHost first typeName fields).rename (Identity.shift first offset) := by
      rw [ofHost, HostField.toFields_shift h (Nat.le_refl first)]
      rfl
    rw [hrename, check_rename (Identity.shift_injective first offset)]
  rw [hleast next hnext, hleast other hother]

/-- Other identities change no outcome. On a table that is given other identities throughout,
evaluation comes to the value with these identities, so to the same value if it has no payload, and
to the same errors. Two structures with the same contents that share payloads in the same places
are checked with the same outcome. So are all structures that are made of the same data of the
host, wherever the numbers of their payloads begin behind those in the data. -/
theorem eval_check_with_other_identities :
    (∀ r : Identity → Identity, Function.Injective r → ∀ table expr,
      eval (table.rename r) expr = (eval table expr).map (Value.rename r) ∧
      (∀ value, value.identity? = none →
        (eval (table.rename r) expr = .ok value ↔ eval table expr = .ok value)) ∧
      ∀ error, eval (table.rename r) expr = .error error ↔ eval table expr = .error error) ∧
    (∀ first second : Record, first.SharesAs second → second.check = first.check) ∧
    ∀ typeName fields first next other, (∀ field ∈ fields, field.data.Below first) →
      first ≤ next → first ≤ other →
      (Record.ofHost next typeName fields).check = (Record.ofHost other typeName fields).check := by
  refine ⟨?_, ?_, ?_⟩
  · intro r hr table expr
    have heval : eval (table.rename r) expr = (eval table expr).map (Value.rename r) :=
      eval_renamed hr (table.renamed_rename r) expr
    refine ⟨heval, ?_, ?_⟩
    · intro value hplain
      rw [heval]
      cases eval table expr <;> simp [Except.map, Value.rename_eq_iff hplain]
    · intro error
      rw [heval]
      cases eval table expr <;> simp [Except.map]
  · intro first second h
    exact Record.check_of_sharesAs h
  · intro typeName fields first next other h hnext hother
    exact Record.check_ofHost h hnext hother typeName

/-- Two pointers to the same number stay different, whatever their identities. -/
theorem eval_check_pair_with_other_identities :
    eval ((SymbolTable.ofList [("p", .pointer ⟨0⟩ (.int 5)), ("q", .pointer ⟨1⟩ (.int 5))]).rename
        (Identity.shift 1 6)) (.binary (.symbol "p") .equal (.symbol "q")) = .ok (.bool false) ∧
    Record.check ⟨"Pair", [⟨"p", .pointer ⟨7⟩ (.int 5), some "p != q"⟩,
        ⟨"q", .pointer ⟨3⟩ (.int 5), none⟩]⟩ =
      Record.check ⟨"Pair", [⟨"p", .pointer ⟨0⟩ (.int 5), some "p != q"⟩,
        ⟨"q", .pointer ⟨1⟩ (.int 5), none⟩]⟩ ∧
    (Record.ofHost 4 "Pair" [⟨"p", .boxed (.int 5), some "p != q"⟩,
        ⟨"q", .dynamic (.pointer ⟨3⟩ (.int 5)), none⟩]).check =
      (Record.ofHost 9 "Pair" [⟨"p", .boxed (.int 5), some "p != q"⟩,
        ⟨"q", .dynamic (.pointer ⟨3⟩ (.int 5)), none⟩]).check := by
  obtain ⟨heval, hcheck, hhost⟩ := eval_check_with_other_identities
  refine ⟨?_, ?_, ?_⟩
  · obtain ⟨-, hsame, -⟩ := heval (Identity.shift 1 6) (Identity.shift_injective 1 6)
      (.ofList [("p", .pointer ⟨0⟩ (.int 5)), ("q", .pointer ⟨1⟩ (.int 5))])
      (.binary (.symbol "p") .equal (.symbol "q"))
    exact (hsame (.bool false) rfl).mpr rfl
  · apply hcheck
    refine ⟨rfl, ?_⟩
    show ShareAlike [⟨0⟩, ⟨1⟩] [⟨7⟩, ⟨3⟩]
    intro i j
    rcases i with _ | _ | i <;> rcases j with _ | _ | j <;> simp
  · apply hhost "Pair" _ 4
    · simp [HostValue.Below, Value.identities]
    · omega
    · omega

end FieldPredicate
