import FieldPredicate.Host

/-!
# Types of the host

The types from which structures are built, and what data they admit. The kind of a value is
decided by the type of its host data.
-/

namespace FieldPredicate

/-- The widths of the integers of the host. A machine word has 64 bits. -/
inductive IntWidth where
  | w8
  | w16
  | w32
  | w64
  | word
  deriving DecidableEq

def IntWidth.bits : IntWidth → Nat
  | .w8 => 8
  | .w16 => 16
  | .w32 => 32
  | .w64 | .word => 64

inductive HostType where
  | bool
  | int (width : IntWidth)
  | uint (width : IntWidth)
  | float32
  | float64
  | string
  | sequence (item : HostType)
  /-- A table in the order of its keys. -/
  | table (key item : HostType)
  | optional (content : HostType)
  | boxed (content : HostType)
  | record (name : String) (fields : List (String × HostType))
  /-- Values of predicates, held as they are. -/
  | dynamic

namespace HostType

mutual

/-- The data is of the type. -/
def admits : HostType → HostValue → Bool
  | .bool, .bool _ => true
  | .int width, .int n =>
      -(Nat.pow 2 (width.bits - 1) : Int) ≤ n && n < Nat.pow 2 (width.bits - 1)
  | .uint width, .uint n => n < Nat.pow 2 width.bits
  | .float32, .float32 _ => true
  | .float64, .float64 _ => true
  | .string, .string _ => true
  | .sequence item, .sequence items => items.all fun x => item.admits x
  | .table key item, .table entries =>
      (entries.all fun entry => key.admits entry.1 && item.admits entry.2) &&
        decide (entries.Pairwise fun a b => HostValue.compareKeys a.1 b.1 = .lt)
  | .optional _, .missing => true
  | .optional content, .present x => content.admits x
  | .boxed content, .boxed x => content.admits x
  | .record name fields, .record name' values => name = name' && admitsFields fields values
  | .dynamic, .dynamic _ => true
  | _, _ => false

def admitsFields : List (String × HostType) → List (String × HostValue) → Bool
  | [], [] => true
  | (name, type) :: types, (name', value) :: values =>
      name = name' && type.admits value && admitsFields types values
  | _, _ => false

end

/-- The forms that data can have, by its type. -/
inductive Form : HostType → HostValue → Prop
  | bool (b : Bool) : Form .bool (.bool b)
  | int {width : IntWidth} {n : Int} : -(Nat.pow 2 (width.bits - 1) : Int) ≤ n →
      n < Nat.pow 2 (width.bits - 1) → Form (.int width) (.int n)
  | uint {width : IntWidth} {n : Nat} : n < Nat.pow 2 width.bits → Form (.uint width) (.uint n)
  | float32 (x : Float32) : Form .float32 (.float32 x)
  | float64 (x : Float) : Form .float64 (.float64 x)
  | string (s : String) : Form .string (.string s)
  | sequence {item : HostType} {items : List HostValue} :
      (∀ x ∈ items, item.admits x = true) → Form (.sequence item) (.sequence items)
  | table {key item : HostType} {entries : List (HostValue × HostValue)} :
      (∀ entry ∈ entries, key.admits entry.1 = true ∧ item.admits entry.2 = true) →
      (entries.Pairwise fun a b => HostValue.compareKeys a.1 b.1 = .lt) →
      Form (.table key item) (.table entries)
  | missing (content : HostType) : Form (.optional content) .missing
  | present {content : HostType} {x : HostValue} :
      content.admits x = true → Form (.optional content) (.present x)
  | boxed {content : HostType} {x : HostValue} :
      content.admits x = true → Form (.boxed content) (.boxed x)
  | record {name : String} {fields : List (String × HostType)}
      {values : List (String × HostValue)} :
      admitsFields fields values = true → Form (.record name fields) (.record name values)
  | dynamic (value : Value) : Form .dynamic (.dynamic value)

theorem form_of_admits {type : HostType} {x : HostValue} (h : type.admits x = true) :
    Form type x := by
  fun_cases admits type x with
  | case1 b => exact .bool b
  | case2 width n =>
      simp only [admits, Bool.and_eq_true, decide_eq_true_eq] at h
      exact .int h.1 h.2
  | case3 width n =>
      simp only [admits, decide_eq_true_eq] at h
      exact .uint h
  | case4 x => exact .float32 x
  | case5 x => exact .float64 x
  | case6 s => exact .string s
  | case7 item items =>
      simp only [admits, List.all_eq_true] at h
      exact .sequence h
  | case8 key item entries =>
      simp only [admits, Bool.and_eq_true, List.all_eq_true, decide_eq_true_eq] at h
      exact .table h.1 h.2
  | case9 content => exact .missing content
  | case10 content x => exact .present h
  | case11 content x => exact .boxed h
  | case12 name fields values =>
      simp only [admits, Bool.and_eq_true, decide_eq_true_eq] at h
      obtain ⟨rfl, hvalues⟩ := h
      exact .record hvalues
  | case13 value => exact .dynamic value
  | case14 => simp [admits] at h

/-- The kind of the values of the type, if the type decides it. -/
def kind? : HostType → Option Kind
  | .bool => some .bool
  | .int _ => some .int
  | .uint _ => some .uint
  | .float32 => some .float32
  | .float64 => some .float64
  | .string => some .string
  | .sequence _ => some .slice
  | .table _ _ => some .map
  | .optional _ | .boxed _ => some .pointer
  | .record _ _ => some .struct
  | .dynamic => none

mutual

/-- No floats and no values that are held as they are have a part in the type. -/
def isExact : HostType → Bool
  | .bool | .int _ | .uint _ | .string => true
  | .float32 | .float64 | .dynamic => false
  | .sequence item => item.isExact
  | .table key item => key.isExact && item.isExact
  | .optional content | .boxed content => content.isExact
  | .record _ fields => fieldsAreExact fields

def fieldsAreExact : List (String × HostType) → Bool
  | [] => true
  | (_, type) :: rest => type.isExact && fieldsAreExact rest

end

mutual

/-- The data of an exact type that a value stands for. The identities of payloads play no part. -/
def read : HostType → Value → Option HostValue
  | .bool, .bool b => some (.bool b)
  | .int _, .int n => some (.int n.toInt)
  | .uint _, .uint n => some (.uint n.toNat)
  | .string, .string s => some (.string s)
  | .sequence item, .slice _ values => (values.mapM item.read).map .sequence
  | .table key item, .map _ entries =>
      (entries.mapM fun entry =>
        (key.read entry.1).bind fun k => (item.read entry.2).map fun x => (k, x)).map .table
  | .optional _, .absent .pointer => some .missing
  | .optional content, .pointer _ target => (content.read target).map .present
  | .boxed content, .pointer _ target => (content.read target).map .boxed
  | .record name fields, .struct _ _ values => (readFields fields values).map (.record name)
  | _, _ => none

def readFields : List (String × HostType) → List (String × Value) →
    Option (List (String × HostValue))
  | [], [] => some []
  | (name, type) :: types, (_, value) :: values =>
      (type.read value).bind fun x => (readFields types values).map fun xs => (name, x) :: xs
  | _, _ => none

end

end HostType

end FieldPredicate
