import FieldPredicate.Decimal.Shortest
import FieldPredicate.Text.Quoted
import FieldPredicate.Value

/-!
# Values in diagnostics

A value is shown by its contents. An absent payload is `nil`, a pointer is `&` before its target,
and the parts of the other payloads stand in their order, with commas between them.
-/

namespace FieldPredicate.Value

/-- Texts with a comma and a space between each two. -/
def commaSeparated (texts : List String) : String :=
  ", ".intercalate texts

mutual

def render : Value → String
  | .nil | .absent _ => "nil"
  | .bool b => if b then "true" else "false"
  | .int n => Int.repr n.toInt
  | .uint n => Nat.repr n.toNat
  | .float32 x => Decimal.binary32.render x.toBits.toNat
  | .float64 x => Decimal.binary64.render x.toBits.toNat
  | .string s => Text.quote s
  | .slice _ items => "[" ++ commaSeparated (renderItems items) ++ "]"
  | .map _ entries => "map[" ++ commaSeparated (renderEntries entries) ++ "]"
  | .pointer _ target => "&" ++ target.render
  | .struct _ name fields => name ++ "\x7b" ++ commaSeparated (renderFields fields) ++ "\x7d"

def renderItems : List Value → List String
  | [] => []
  | value :: rest => value.render :: renderItems rest

def renderEntries : List (Value × Value) → List String
  | [] => []
  | (key, value) :: rest => (key.render ++ ": " ++ value.render) :: renderEntries rest

def renderFields : List (String × Value) → List String
  | [] => []
  | (name, value) :: rest => (name ++ ": " ++ value.render) :: renderFields rest

end

end FieldPredicate.Value
