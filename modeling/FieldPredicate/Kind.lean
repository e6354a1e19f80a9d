/-!
# Kinds

Every value has one of eleven kinds, and an operator chooses its meaning by kind alone. The three
nilable kinds have an absent value, to which the untyped `nil` adapts.
-/

namespace FieldPredicate

/-- The kinds whose payload may be absent. -/
inductive Nilable where
  | slice
  | map
  | pointer
  deriving DecidableEq

inductive Kind where
  | nil
  | bool
  | int
  | uint
  | float32
  | float64
  | string
  | slice
  | map
  | pointer
  | struct
  deriving DecidableEq

def Nilable.kind : Nilable → Kind
  | .slice => .slice
  | .map => .map
  | .pointer => .pointer

namespace Kind

def nilable? : Kind → Option Nilable
  | .slice => some .slice
  | .map => some .map
  | .pointer => some .pointer
  | _ => none

def isNilable (k : Kind) : Bool :=
  k.nilable?.isSome

def isNumeric : Kind → Bool
  | .int | .uint | .float32 | .float64 => true
  | _ => false

def name : Kind → String
  | .nil => "nil"
  | .bool => "bool"
  | .int => "int"
  | .uint => "uint"
  | .float32 => "float32"
  | .float64 => "float64"
  | .string => "string"
  | .slice => "slice"
  | .map => "map"
  | .pointer => "pointer"
  | .struct => "struct"

@[simp] theorem nilable?_eq_some_iff {k : Kind} {n : Nilable} :
    k.nilable? = some n ↔ k = n.kind := by
  cases k <;> cases n <;> simp [nilable?, Nilable.kind]

end Kind

end FieldPredicate
