import FieldPredicate.Kind

/-!
# Values

Slices, maps, pointers and structures have a payload with an identity: two values with one
identity are two handles to one payload, whatever other payloads hold the same contents. A payload
of the first three kinds may be absent.
-/

namespace FieldPredicate

/-- What distinguishes a payload from every other one. -/
structure Identity where
  number : Nat
  deriving DecidableEq

inductive Value where
  /-- The untyped `nil`, before it adapts to a nilable kind. -/
  | nil
  | bool (b : Bool)
  | int (n : Int64)
  | uint (n : UInt64)
  | float32 (x : Float32)
  | float64 (x : Float)
  | string (s : String)
  /-- A slice, map or pointer without a payload. -/
  | absent (kind : Nilable)
  | slice (id : Identity) (items : List Value)
  | map (id : Identity) (entries : List (Value × Value))
  | pointer (id : Identity) (target : Value)
  | struct (id : Identity) (name : String) (fields : List (String × Value))

namespace Value

def kind : Value → Kind
  | .nil => .nil
  | .bool _ => .bool
  | .int _ => .int
  | .uint _ => .uint
  | .float32 _ => .float32
  | .float64 _ => .float64
  | .string _ => .string
  | .absent n => n.kind
  | .slice _ _ => .slice
  | .map _ _ => .map
  | .pointer _ _ => .pointer
  | .struct _ _ _ => .struct

/-- The values of each kind. -/
inductive OfKind : Kind → Value → Prop
  | nil : OfKind .nil .nil
  | bool (b : Bool) : OfKind .bool (.bool b)
  | int (n : Int64) : OfKind .int (.int n)
  | uint (n : UInt64) : OfKind .uint (.uint n)
  | float32 (x : Float32) : OfKind .float32 (.float32 x)
  | float64 (x : Float) : OfKind .float64 (.float64 x)
  | string (s : String) : OfKind .string (.string s)
  | absentSlice : OfKind .slice (.absent .slice)
  | absentMap : OfKind .map (.absent .map)
  | absentPointer : OfKind .pointer (.absent .pointer)
  | slice (id : Identity) (items : List Value) : OfKind .slice (.slice id items)
  | map (id : Identity) (entries : List (Value × Value)) : OfKind .map (.map id entries)
  | pointer (id : Identity) (target : Value) : OfKind .pointer (.pointer id target)
  | struct (id : Identity) (name : String) (fields : List (String × Value)) :
      OfKind .struct (.struct id name fields)

theorem ofKind (value : Value) : OfKind value.kind value := by
  cases value with
  | absent n => cases n <;> constructor
  | _ => constructor

theorem OfKind.kind_eq {kind : Kind} {value : Value} (h : OfKind kind value) :
    value.kind = kind := by
  cases h <;> rfl

theorem ofKind_of_kind_eq {kind : Kind} {value : Value} (h : value.kind = kind) :
    OfKind kind value := by
  rw [← h]
  exact value.ofKind

theorem exists_eq_bool {value : Value} (h : value.kind = .bool) : ∃ b, value = .bool b := by
  cases ofKind_of_kind_eq h with
  | bool b => exact ⟨b, rfl⟩

def identity? : Value → Option Identity
  | .slice id _ | .map id _ | .pointer id _ | .struct id _ _ => some id
  | _ => none

/-- The value without a payload of a nilable kind. -/
def nilOf? (k : Kind) : Option Value :=
  k.nilable?.map .absent

/-- The pair of operands after an untyped `nil` has adapted to a nilable partner. -/
def coerceNil (left right : Value) : Value × Value :=
  match left, right with
  | .nil, right => ((nilOf? right.kind).getD .nil, right)
  | left, .nil => (left, (nilOf? left.kind).getD .nil)
  | left, right => (left, right)

def field? (fields : List (String × Value)) (name : String) : Option Value :=
  (fields.find? (·.1 = name)).map (·.2)

/-- The value of the first entry whose key is a string equal to the name. -/
def atKey? (entries : List (Value × Value)) (name : String) : Option Value :=
  match entries with
  | [] => none
  | (.string key, value) :: rest => if key = name then some value else atKey? rest name
  | _ :: rest => atKey? rest name

end Value

end FieldPredicate
