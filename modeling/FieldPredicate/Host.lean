import FieldPredicate.Value

/-!
# Data of the host

What a program holds in its own types becomes a value with fresh payloads: sequences become
slices, tables maps, optional and boxed data pointers, and structures keep their fields. An
optional datum that is missing is the absent pointer.
-/

namespace FieldPredicate

inductive HostValue where
  | bool (b : Bool)
  | int (n : Int)
  | uint (n : Nat)
  | float32 (x : Float32)
  | float64 (x : Float)
  | string (s : String)
  | sequence (items : List HostValue)
  | table (entries : List (HostValue × HostValue))
  | missing
  | present (content : HostValue)
  | boxed (content : HostValue)
  | record (name : String) (fields : List (String × HostValue))
  /-- A value of a predicate, held as it is. -/
  | dynamic (value : Value)

/-- The signed integer of a predicate that is nearest to a signed integer of the host. -/
def signedWord (n : Int) : Int64 :=
  Int64.ofInt (max Int64.minValue.toInt (min n Int64.maxValue.toInt))

def unsignedWord (n : Nat) : UInt64 :=
  UInt64.ofNat (min n (UInt64.size - 1))

namespace HostValue

mutual

/-- The value of host data, with payloads numbered from a given number on, and the next number
after them. -/
def toValue (next : Nat) : HostValue → Value × Nat
  | .bool b => (.bool b, next)
  | .int n => (.int (signedWord n), next)
  | .uint n => (.uint (unsignedWord n), next)
  | .float32 x => (.float32 x, next)
  | .float64 x => (.float64 x, next)
  | .string s => (.string s, next)
  | .sequence items =>
      let (values, after) := toItems (next + 1) items
      (.slice ⟨next⟩ values, after)
  | .table entries =>
      let (values, after) := toEntries (next + 1) entries
      (.map ⟨next⟩ values, after)
  | .missing => (.absent .pointer, next)
  | .present content | .boxed content =>
      let (target, after) := toValue (next + 1) content
      (.pointer ⟨next⟩ target, after)
  | .record name fields =>
      let (values, after) := toFields (next + 1) fields
      (.struct ⟨next⟩ name values, after)
  | .dynamic value => (value, next)

def toItems (next : Nat) : List HostValue → List Value × Nat
  | [] => ([], next)
  | item :: rest =>
      let (value, after) := toValue next item
      let (values, after) := toItems after rest
      (value :: values, after)

def toEntries (next : Nat) : List (HostValue × HostValue) → List (Value × Value) × Nat
  | [] => ([], next)
  | (key, item) :: rest =>
      let (key, after) := toValue next key
      let (value, after) := toValue after item
      let (values, after) := toEntries after rest
      ((key, value) :: values, after)

def toFields (next : Nat) : List (String × HostValue) → List (String × Value) × Nat
  | [] => ([], next)
  | (name, item) :: rest =>
      let (value, after) := toValue next item
      let (values, after) := toFields after rest
      ((name, value) :: values, after)

end

/-! ## Ordered tables -/

mutual

/-- The order of keys. Numbers are ordered by size, strings by their code points, a missing datum
comes before a present one, and what has parts is ordered by the first part in which it differs.
Keys of one type are never of two sorts, so the order between sorts plays no part. -/
def compareKeys : HostValue → HostValue → Ordering
  | .bool a, .bool b => compare a b
  | .int a, .int b => compare a b
  | .uint a, .uint b => compare a b
  | .string a, .string b => compare a b
  | .missing, .missing => .eq
  | .missing, .present _ => .lt
  | .present _, .missing => .gt
  | .present a, .present b => compareKeys a b
  | .boxed a, .boxed b => compareKeys a b
  | .sequence as, .sequence bs => compareItems as bs
  | .table as, .table bs => compareEntries as bs
  | .record _ as, .record _ bs => compareFields as bs
  | _, _ => .eq

def compareItems : List HostValue → List HostValue → Ordering
  | [], [] => .eq
  | [], _ :: _ => .lt
  | _ :: _, [] => .gt
  | a :: as, b :: bs => (compareKeys a b).then (compareItems as bs)

def compareEntries : List (HostValue × HostValue) → List (HostValue × HostValue) → Ordering
  | [], [] => .eq
  | [], _ :: _ => .lt
  | _ :: _, [] => .gt
  | (k, a) :: as, (l, b) :: bs =>
      (compareKeys k l).then ((compareKeys a b).then (compareEntries as bs))

def compareFields : List (String × HostValue) → List (String × HostValue) → Ordering
  | [], [] => .eq
  | [], _ :: _ => .lt
  | _ :: _, [] => .gt
  | (_, a) :: as, (_, b) :: bs => (compareKeys a b).then (compareFields as bs)

end

/-- Puts an entry among entries in the order of their keys, in place of one with an equal key. -/
def placeEntry (key item : HostValue) :
    List (HostValue × HostValue) → List (HostValue × HostValue)
  | [] => [(key, item)]
  | (other, old) :: rest =>
      match compareKeys key other with
      | .lt => (key, item) :: (other, old) :: rest
      | .eq => (other, item) :: rest
      | .gt => (other, old) :: placeEntry key item rest

/-- The table of entries in the order of their keys. Of two entries with equal keys the later one
counts. -/
def orderedTable (entries : List (HostValue × HostValue)) : HostValue :=
  .table (entries.foldl (fun table entry => placeEntry entry.1 entry.2 table) [])

end HostValue

end FieldPredicate
