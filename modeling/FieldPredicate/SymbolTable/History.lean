import FieldPredicate.SymbolTable

/-!
# Histories of symbol tables

What a program does to a table from its creation on. A history is also read without a table, as the
bindings that it has made since it last created one, the oldest first.
-/

namespace FieldPredicate.SymbolTable

inductive Operation where
  /-- Binds a name, and gives back the value that it replaces. -/
  | insert (name : String) (value : Value)
  /-- Binds a name, and goes on with the table. -/
  | bind (name : String) (value : Value)
  | extend (bindings : List (String × Value))
  /-- Creates a table of bindings, in place of the one before. -/
  | collect (bindings : List (String × Value))

namespace Operation

def apply (table : SymbolTable) : Operation → SymbolTable
  | .insert name value => (table.insert name value).2
  | .bind name value => table.bind name value
  | .extend bindings => table.extend bindings
  | .collect bindings => .ofList bindings

/-- The bindings made so far, with those of one more operation. -/
def record (made : List (String × Value)) : Operation → List (String × Value)
  | .insert name value | .bind name value => made ++ [(name, value)]
  | .extend bindings => made ++ bindings
  | .collect bindings => bindings

end Operation

/-- The table after operations that start with an empty one. -/
def run (operations : List Operation) : SymbolTable :=
  operations.foldl Operation.apply empty

def bindingsMade (operations : List Operation) : List (String × Value) :=
  operations.foldl Operation.record []

/-- The value is what the name was bound to last. -/
def MostRecent (made : List (String × Value)) (name : String) (value : Value) : Prop :=
  ∃ earlier later, made = earlier ++ (name, value) :: later ∧ ∀ binding ∈ later, binding.1 ≠ name

end FieldPredicate.SymbolTable
