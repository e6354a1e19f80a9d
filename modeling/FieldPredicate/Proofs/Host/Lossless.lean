import FieldPredicate.Host.Type
import FieldPredicate.Proofs.Check.FailFast
import FieldPredicate.Proofs.Eval.EqualityLaws
import FieldPredicate.Proofs.Eval.Substitution
import FieldPredicate.Value.Contents

/-!
# What the conversion of data keeps

Data of an exact type loses nothing when it becomes a value: its kind is that of the type, its
integers are the same numbers, and other data of the type has other contents. Missing data becomes
the absent pointer and nothing else does, so data that is there is never `nil`, though it may be
empty or hold missing data in turn.
-/

namespace FieldPredicate

/-! ## Kinds -/

theorem HostType.kind_toValue {type : HostType} {x : HostValue} {kind : Kind}
    (hx : type.admits x = true) (hkind : type.kind? = some kind) (next : Nat) :
    (x.toValue next).1.kind = kind := by
  cases form_of_admits hx with
  | dynamic => cases hkind
  | _ =>
      cases hkind
      rw [HostValue.toValue]
      rfl

theorem HostType.exists_kind? {type : HostType} (h : type.isExact = true) :
    ∃ kind, type.kind? = some kind := by
  cases type with
  | dynamic => cases h
  | _ => exact ⟨_, rfl⟩

/-! ## Integers -/

section Integers

variable {width : IntWidth}

theorem toInt_signedWord {n : Int} (h : (HostType.int width).admits (.int n) = true) :
    (signedWord n).toInt = n := by
  have hfits : -2 ^ 63 ≤ n ∧ n < 2 ^ 63 := by
    cases HostType.form_of_admits h with
    | int hlow hhigh =>
        cases width <;> simp only [IntWidth.bits, Nat.pow_eq] at hlow hhigh <;> omega
  have hmin : Int64.minValue.toInt = -2 ^ 63 := rfl
  have hmax : Int64.maxValue.toInt = 2 ^ 63 - 1 := rfl
  have hclamped : max Int64.minValue.toInt (min n Int64.maxValue.toInt) = n := by omega
  rw [signedWord, hclamped]
  exact Int64.toInt_ofInt_of_le hfits.1 hfits.2

theorem toNat_unsignedWord {n : Nat} (h : (HostType.uint width).admits (.uint n) = true) :
    (unsignedWord n).toNat = n := by
  have hfits : n < 2 ^ 64 := by
    cases HostType.form_of_admits h with
    | uint hlt => cases width <;> simp only [IntWidth.bits, Nat.pow_eq] at hlt <;> omega
  have hclamped : min n (UInt64.size - 1) = n := Nat.min_eq_left (Nat.le_sub_one_of_lt hfits)
  rw [unsignedWord, hclamped]
  exact UInt64.toNat_ofNat_of_lt' hfits

end Integers

/-! ## Reading data back -/

namespace HostType

open Value

section SameContents

theorem mapM_eq_of_sameItems {read : Value → Option HostValue}
    (h : ∀ a b, a.sameContents b = true → read a = read b) {as bs : List Value}
    (hsame : sameItems as bs = true) : as.mapM read = bs.mapM read := by
  induction as generalizing bs with
  | nil =>
      cases bs with
      | nil => rfl
      | cons => simp [sameItems] at hsame
  | cons a as ih =>
      cases bs with
      | nil => simp [sameItems] at hsame
      | cons b bs =>
          rw [sameItems, Bool.and_eq_true] at hsame
          rw [List.mapM_cons, List.mapM_cons, h a b hsame.1, ih hsame.2]

theorem mapM_eq_of_sameEntries {read : Value × Value → Option (HostValue × HostValue)}
    (h : ∀ a b, a.1.sameContents b.1 = true → a.2.sameContents b.2 = true → read a = read b)
    {as bs : List (Value × Value)} (hsame : sameEntries as bs = true) :
    as.mapM read = bs.mapM read := by
  induction as generalizing bs with
  | nil =>
      cases bs with
      | nil => rfl
      | cons => simp [sameEntries] at hsame
  | cons a as ih =>
      cases bs with
      | nil => simp [sameEntries] at hsame
      | cons b bs =>
          rw [sameEntries.eq_def] at hsame
          simp only [Bool.and_eq_true] at hsame
          rw [List.mapM_cons, List.mapM_cons, h a b hsame.1.1 hsame.1.2, ih hsame.2]

-- By the recursion of types. A type reads the values of one form only, and the two values have one
-- form, so a type of another form reads neither.
mutual

/-- Reading sees no more of a value than its contents. -/
theorem read_eq_of_sameContents : ∀ (type : HostType) {a b : Value},
    a.sameContents b = true → type.read a = type.read b
  | .sequence item, _, _, h => by
      cases sameForm_of_sameContents h with
      | slice hitems =>
          have hread : ∀ a b, a.sameContents b = true → item.read a = item.read b := by
            intro a b hsame
            exact read_eq_of_sameContents item hsame
          rw [read, read, mapM_eq_of_sameItems hread hitems]
      | _ => rfl
  | .table key item, _, _, h => by
      cases sameForm_of_sameContents h with
      | map hentries =>
          rw [read, read, mapM_eq_of_sameEntries _ hentries]
          intro a b hkeys hitems
          rw [read_eq_of_sameContents key hkeys, read_eq_of_sameContents item hitems]
      | _ => rfl
  | .optional content, _, _, h => by
      cases sameForm_of_sameContents h with
      | pointer htarget => rw [read, read, read_eq_of_sameContents content htarget]
      | _ => rfl
  | .boxed content, _, _, h => by
      cases sameForm_of_sameContents h with
      | pointer htarget => rw [read, read, read_eq_of_sameContents content htarget]
      | _ => rfl
  | .record _ fields, _, _, h => by
      cases sameForm_of_sameContents h with
      | struct _ hfields => rw [read, read, readFields_eq_of_sameFields fields hfields]
      | _ => rfl
  | .bool, _, _, h | .int _, _, _, h | .uint _, _, _, h | .string, _, _, h
  | .float32, _, _, h | .float64, _, _, h | .dynamic, _, _, h => by
      cases sameForm_of_sameContents h <;> rfl

theorem readFields_eq_of_sameFields : ∀ (types : List (String × HostType))
    {as bs : List (String × Value)}, sameFields as bs = true →
    readFields types as = readFields types bs
  | _, [], [], _ => rfl
  | _, [], _ :: _, h | _, _ :: _, [], h => by simp [sameFields] at h
  | [], _ :: _, _ :: _, _ => rfl
  | (name, type) :: types, (_, _) :: _, (_, _) :: _, h => by
      simp only [sameFields, Bool.and_eq_true] at h
      rw [readFields, readFields, read_eq_of_sameContents type h.1.2,
        readFields_eq_of_sameFields types h.2]

end

end SameContents

section Converted

open HostValue

theorem mapM_toItems {read : Value → Option HostValue} {items : List HostValue}
    (h : ∀ x ∈ items, ∀ next, read (x.toValue next).1 = some x) (next : Nat) :
    (toItems next items).1.mapM read = some items := by
  induction items generalizing next with
  | nil => rfl
  | cons x rest ih =>
      obtain ⟨hx, hrest⟩ := List.forall_mem_cons.mp h
      simp [toItems, hx, ih hrest]

theorem mapM_toEntries {read : Value × Value → Option (HostValue × HostValue)}
    {entries : List (HostValue × HostValue)}
    (h : ∀ entry ∈ entries, ∀ m n, read ((entry.1.toValue m).1, (entry.2.toValue n).1) = some entry)
    (next : Nat) : (toEntries next entries).1.mapM read = some entries := by
  induction entries generalizing next with
  | nil => rfl
  | cons entry rest ih =>
      obtain ⟨hentry, hrest⟩ := List.forall_mem_cons.mp h
      simp [toEntries, hentry, ih hrest]

-- By the recursion of types as well, since the form of the data follows from the type.
mutual

/-- Data of an exact type is read back from what it becomes, whatever its payloads are numbered. -/
theorem read_toValue : ∀ (type : HostType) {x : HostValue}, type.isExact = true →
    type.admits x = true → ∀ next, type.read (x.toValue next).1 = some x
  | .bool, _, _, hx, next => by
      cases form_of_admits hx
      rw [toValue, read]
  | .int _, _, _, hx, next => by
      cases form_of_admits hx
      rw [toValue, read, toInt_signedWord hx]
  | .uint _, _, _, hx, next => by
      cases form_of_admits hx
      rw [toValue, read, toNat_unsignedWord hx]
  | .string, _, _, hx, next => by
      cases form_of_admits hx
      rw [toValue, read]
  | .sequence item, _, hexact, hx, next => by
      cases form_of_admits hx with
      | sequence hitems =>
          rw [toValue, read, mapM_toItems]
          · rfl
          · intro x hmem
            exact read_toValue item hexact (hitems x hmem)
  | .table key item, _, hexact, hx, next => by
      obtain ⟨hkey, hitem⟩ := Bool.and_eq_true_iff.mp hexact
      cases form_of_admits hx with
      | table hentries =>
          rw [toValue, read, mapM_toEntries]
          · rfl
          · intro entry hmem m n
            rw [read_toValue key hkey (hentries entry hmem).1,
              read_toValue item hitem (hentries entry hmem).2]
            rfl
  | .optional content, _, hexact, hx, next => by
      cases form_of_admits hx with
      | missing => rw [toValue, read]
      | present hx =>
          rw [toValue, read, read_toValue content hexact hx]
          rfl
  | .boxed content, _, hexact, hx, next => by
      cases form_of_admits hx with
      | boxed hx =>
          rw [toValue, read, read_toValue content hexact hx]
          rfl
  | .record _ fields, _, hexact, hx, next => by
      cases form_of_admits hx with
      | record hvalues =>
          rw [toValue, read, readFields_toFields fields hexact hvalues]
          rfl

theorem readFields_toFields : ∀ (types : List (String × HostType))
    {values : List (String × HostValue)}, fieldsAreExact types = true →
    admitsFields types values = true → ∀ next,
    readFields types (toFields next values).1 = some values
  | [], [], _, _, _ => rfl
  | [], _ :: _, _, h, _ | _ :: _, [], _, h, _ => by cases h
  | (name, type) :: types, (name', x) :: rest, hexact, h, next => by
      obtain ⟨htype, htypes⟩ := Bool.and_eq_true_iff.mp hexact
      simp only [admitsFields, Bool.and_eq_true, decide_eq_true_eq] at h
      obtain ⟨⟨rfl, hx⟩, hrest⟩ := h
      simp [toFields, readFields, read_toValue type htype hx,
        readFields_toFields types htypes hrest]

end

end Converted

theorem eq_of_sameContents {type : HostType} {x y : HostValue} {m n : Nat}
    (hexact : type.isExact = true) (hx : type.admits x = true) (hy : type.admits y = true)
    (hsame : (x.toValue m).1.sameContents (y.toValue n).1 = true) : x = y := by
  have hread := read_eq_of_sameContents type hsame
  rw [read_toValue type hexact hx, read_toValue type hexact hy] at hread
  exact Option.some.inj hread

end HostType

/-! ## Comparison with `nil` -/

section Nil

variable {value : Value}

theorem compile_isNil : Predicate.compile placeholder "? == nil" =
    .ok ⟨placeholder, "? == nil", .binary (.symbol "?") .equal (.symbol "nil")⟩ := by
  have htokens : tokenize "? == nil" =
      [⟨.symbol, "?"⟩, ⟨.equal, "=="⟩, ⟨.symbol, "nil"⟩, .eof] := by
    decide +kernel
  rw [Predicate.compile, htokens]
  rfl

theorem eval_isNil (value : Value) :
    eval (SymbolTable.empty.bind placeholder value)
      (.binary (.symbol "?") .equal (.symbol "nil")) = evalBinary .equal value .nil := by
  have hvalue : evalSymbol (SymbolTable.empty.bind placeholder value) "?" = .ok value :=
    evalSymbol_bind_self .empty placeholder value
  have hnil : evalSymbol (SymbolTable.empty.bind placeholder value) "nil" = .ok .nil := by
    rw [← evalSymbol_bind_of_ne .empty value (by decide), evalSymbol, SymbolTable.get?_empty]
    rfl
  rw [eval_binary, eval, eval, hvalue, hnil]
  rfl

theorem failureCause?_isNil_absent (n : Nilable) :
    failureCause? placeholder "? == nil" (SymbolTable.empty.bind placeholder (.absent n)) =
      none := by
  have hequal := ((comparesWithNil (.absent n)).absent (.inr ⟨n, rfl⟩)).1
  rw [← eval_isNil] at hequal
  exact failureCause?_of_met ⟨_, compile_isNil, Predicate.test_of_bool hequal⟩

theorem failureCause?_isNil_present (hkind : value.kind.isNilable = true)
    (hid : ∃ id, value.identity? = some id) :
    failureCause? placeholder "? == nil" (SymbolTable.empty.bind placeholder value) =
      some .unsatisfied := by
  have hequal := ((comparesWithNil value).present hkind hid).1
  rw [← eval_isNil] at hequal
  exact failureCause?_of_failsWith (.unsatisfied compile_isNil hequal)

theorem failureCause?_isNil_other (hnil : value.kind ≠ .nil)
    (hkind : value.kind.isNilable = false) :
    failureCause? placeholder "? == nil" (SymbolTable.empty.bind placeholder value) =
      some (.failed (.eval (.typeMismatch "==" value.kind .nil))) := by
  have hequal := ((comparesWithNil value).other hnil hkind).1
  rw [← eval_isNil] at hequal
  exact failureCause?_of_failsWith (.eval compile_isNil hequal)

end Nil

namespace HostType

/-- Why data of the type is not `nil`, unless it is. The kind is that of the type. -/
def notNil? (kind : Kind) : HostType → HostValue → Option Cause
  | .optional _, .missing => none
  | .optional _, _ | .boxed _, _ | .sequence _, _ | .table _ _, _ => some .unsatisfied
  | _, _ => some (.failed (.eval (.typeMismatch "==" kind .nil)))

theorem failureCause?_isNil {type : HostType} {x : HostValue} {kind : Kind}
    (hx : type.admits x = true) (hkind : type.kind? = some kind) (next : Nat) :
    failureCause? placeholder "? == nil"
      (SymbolTable.empty.bind placeholder (x.toValue next).1) = type.notNil? kind x := by
  have hvalue := kind_toValue hx hkind next
  cases form_of_admits hx with
  | missing => exact failureCause?_isNil_absent .pointer
  | dynamic => cases hkind
  | sequence | table | present | boxed =>
      cases hkind
      refine failureCause?_isNil_present ?_ ⟨⟨next⟩, ?_⟩
      · rw [hvalue]
        rfl
      · rw [HostValue.toValue]
        rfl
  | _ =>
      cases hkind
      rw [failureCause?_isNil_other, hvalue]
      · rfl
      · rw [hvalue]
        decide
      · rw [hvalue]
        rfl

/-- Each exact type has one kind, and its data is read back from what it becomes, with the numbers
that it had. So no two data of the type have values with the same contents. Missing data is `nil`,
everything else in a nilable kind is not, and data of other kinds cannot be compared with `nil`. -/
theorem toValue_lossless {type : HostType} (hexact : type.isExact = true) :
    ∃ kind, type.kind? = some kind ∧ ∀ x next, type.admits x = true →
      (x.toValue next).1.kind = kind ∧
      type.read (x.toValue next).1 = some x ∧
      (∀ n, x = .int n → ∃ w : Int64, (x.toValue next).1 = .int w ∧ w.toInt = n) ∧
      (∀ n, x = .uint n → ∃ w : UInt64, (x.toValue next).1 = .uint w ∧ w.toNat = n) ∧
      (∀ y other, type.admits y = true →
        (x.toValue next).1.sameContents (y.toValue other).1 = true → x = y) ∧
      ∀ typeName, checkValue typeName (x.toValue next).1 "? == nil" =
        match type.notNil? kind x with
        | none => .ok ()
        | some cause =>
            .error ⟨typeName, placeholder, (x.toValue next).1.render, "? == nil", cause⟩ := by
  obtain ⟨kind, hkind⟩ := exists_kind? hexact
  refine ⟨kind, hkind, fun x next hx => ?_⟩
  refine ⟨kind_toValue hx hkind next, read_toValue type hexact hx next, ?_, ?_, ?_, ?_⟩
  · rintro n rfl
    cases form_of_admits hx with
    | int =>
        refine ⟨signedWord n, ?_, toInt_signedWord hx⟩
        rw [HostValue.toValue]
  · rintro n rfl
    cases form_of_admits hx with
    | uint =>
        refine ⟨unsignedWord n, ?_, toNat_unsignedWord hx⟩
        rw [HostValue.toValue]
  · intro y other hy hsame
    exact eq_of_sameContents hexact hx hy hsame
  · intro typeName
    have hcause := failureCause?_isNil hx hkind next
    cases hverdict : type.notNil? kind x with
    | none => rw [checkValue, checkField, hcause, hverdict]
    | some cause => rw [checkValue, checkField, hcause, hverdict]

/-- An optional table with missing and present items, which is present itself. -/
theorem toValue_lossless_of_optional_table :
    (optional (table (int .w8) (optional bool))).isExact = true ∧
    (optional (table (int .w8) (optional bool))).admits
      (.present (.table [(.int (-128), .missing), (.int 5, .present (.bool true))])) = true ∧
    checkValue "Option" (.pointer ⟨0⟩ (.map ⟨1⟩
        [(.int (-128), .absent .pointer), (.int 5, .pointer ⟨2⟩ (.bool true))])) "? == nil" =
      .error ⟨"Option", "?", "&map[-128: nil, 5: &true]", "? == nil", .unsatisfied⟩ := by
  have hexact : (optional (table (int .w8) (optional bool))).isExact = true := rfl
  have hadmits : (optional (table (int .w8) (optional bool))).admits
      (.present (.table [(.int (-128), .missing), (.int 5, .present (.bool true))])) = true := by
    simp [admits, HostValue.compareKeys, IntWidth.bits, Int.compare_eq_lt]
  obtain ⟨kind, -, hlossless⟩ := toValue_lossless hexact
  obtain ⟨-, -, -, -, -, hcheck⟩ := hlossless _ 0 hadmits
  exact ⟨hexact, hadmits, hcheck "Option"⟩

end HostType

end FieldPredicate
