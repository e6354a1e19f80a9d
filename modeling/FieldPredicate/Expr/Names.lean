import FieldPredicate.Expr

/-!
# Names in expressions

An expression looks up names in two ways: as symbols, which stand for whole values, and as the
objects of selectors. `replace` puts expressions in the place of symbols, which objects cannot give
way to.
-/

namespace FieldPredicate.Expr

/-- The names of the symbols, in their order. -/
def symbols : Expr → List String
  | .symbol name => [name]
  | .unary _ operand => operand.symbols
  | .binary left _ right => left.symbols ++ right.symbols
  | _ => []

/-- The names of the objects of selectors, in their order. -/
def objects : Expr → List String
  | .selector object _ => [object]
  | .unary _ operand => operand.objects
  | .binary left _ right => left.objects ++ right.objects
  | _ => []

def names (e : Expr) : List String :=
  e.symbols ++ e.objects

/-- The expression with an expression in the place of each symbol. -/
def replace (assign : String → Expr) : Expr → Expr
  | .symbol name => assign name
  | .unary op operand => .unary op (operand.replace assign)
  | .binary left op right => .binary (left.replace assign) op (right.replace assign)
  | e => e

/-- The expression with an expression in the place of one symbol, wherever it stands. -/
def subst (e : Expr) (name : String) (replacement : Expr) : Expr :=
  e.replace fun other => if other = name then replacement else .symbol other

theorem replace_symbol (e : Expr) : e.replace .symbol = e := by
  induction e with
  | unary op operand ih => rw [replace, ih]
  | binary left op right ihl ihr => rw [replace, ihl, ihr]
  | _ => rfl

theorem mem_names_of_mem_symbols {e : Expr} {name : String} (h : name ∈ e.symbols) :
    name ∈ e.names :=
  List.mem_append_left _ h

theorem mem_names_of_mem_objects {e : Expr} {name : String} (h : name ∈ e.objects) :
    name ∈ e.names :=
  List.mem_append_right _ h

end FieldPredicate.Expr
