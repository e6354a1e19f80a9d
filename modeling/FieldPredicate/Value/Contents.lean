import FieldPredicate.Value

/-!
# Equality of contents

Two values have the same contents if they agree in all but the identities of their payloads.
Floats are compared as numbers, so a value that holds a float which is not a number differs from
itself.
-/

namespace FieldPredicate.Value

mutual

/-- The values agree in all but identities. -/
def sameContents : Value → Value → Bool
  | .nil, .nil => true
  | .bool a, .bool b => a = b
  | .int a, .int b => a = b
  | .uint a, .uint b => a = b
  | .float32 a, .float32 b => a == b
  | .float64 a, .float64 b => a == b
  | .string a, .string b => a = b
  | .absent a, .absent b => a = b
  | .slice _ a, .slice _ b => sameItems a b
  | .map _ a, .map _ b => sameEntries a b
  | .pointer _ a, .pointer _ b => a.sameContents b
  | .struct _ name a, .struct _ name' b => name = name' && sameFields a b
  | _, _ => false

def sameItems : List Value → List Value → Bool
  | [], [] => true
  | a :: as, b :: bs => a.sameContents b && sameItems as bs
  | _, _ => false

def sameEntries : List (Value × Value) → List (Value × Value) → Bool
  | [], [] => true
  | (k, a) :: as, (l, b) :: bs => k.sameContents l && a.sameContents b && sameEntries as bs
  | _, _ => false

def sameFields : List (String × Value) → List (String × Value) → Bool
  | [], [] => true
  | (m, a) :: as, (n, b) :: bs => m = n && a.sameContents b && sameFields as bs
  | _, _ => false

end

/-- The forms of two values with the same contents. -/
inductive SameForm : Value → Value → Prop
  | nil : SameForm .nil .nil
  | bool (b : Bool) : SameForm (.bool b) (.bool b)
  | int (n : Int64) : SameForm (.int n) (.int n)
  | uint (n : UInt64) : SameForm (.uint n) (.uint n)
  | float32 {x y : Float32} : (x == y) = true → SameForm (.float32 x) (.float32 y)
  | float64 {x y : Float} : (x == y) = true → SameForm (.float64 x) (.float64 y)
  | string (s : String) : SameForm (.string s) (.string s)
  | absent (n : Nilable) : SameForm (.absent n) (.absent n)
  | slice {id other : Identity} {as bs : List Value} :
      sameItems as bs = true → SameForm (.slice id as) (.slice other bs)
  | map {id other : Identity} {as bs : List (Value × Value)} :
      sameEntries as bs = true → SameForm (.map id as) (.map other bs)
  | pointer {id other : Identity} {a b : Value} :
      a.sameContents b = true → SameForm (.pointer id a) (.pointer other b)
  | struct {id other : Identity} (name : String) {as bs : List (String × Value)} :
      sameFields as bs = true → SameForm (.struct id name as) (.struct other name bs)

theorem sameForm_of_sameContents {a b : Value} (h : a.sameContents b = true) : SameForm a b := by
  fun_cases sameContents a b with
  | case1 => exact .nil
  | case2 a b =>
      rw [sameContents, decide_eq_true_eq] at h
      exact h ▸ .bool a
  | case3 a b =>
      rw [sameContents, decide_eq_true_eq] at h
      exact h ▸ .int a
  | case4 a b =>
      rw [sameContents, decide_eq_true_eq] at h
      exact h ▸ .uint a
  | case5 x y =>
      rw [sameContents] at h
      exact .float32 h
  | case6 x y =>
      rw [sameContents] at h
      exact .float64 h
  | case7 a b =>
      rw [sameContents, decide_eq_true_eq] at h
      exact h ▸ .string a
  | case8 a b =>
      rw [sameContents, decide_eq_true_eq] at h
      exact h ▸ .absent a
  | case9 id a other b =>
      rw [sameContents] at h
      exact .slice h
  | case10 id a other b =>
      rw [sameContents] at h
      exact .map h
  | case11 id a other b =>
      rw [sameContents] at h
      exact .pointer h
  | case12 id name a other name' b =>
      rw [sameContents, Bool.and_eq_true, decide_eq_true_eq] at h
      obtain ⟨rfl, hfields⟩ := h
      exact .struct name hfields
  | case13 => simp [sameContents] at h

end FieldPredicate.Value
