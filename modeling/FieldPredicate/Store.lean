import FieldPredicate.Eval
import FieldPredicate.Value.Identity
import Mathlib.Logic.Relation

/-!
# Programs that hold values

A program builds values one at a time, of values that it holds, and binds them in a table. What is
bound it can take back, and it can hold the result of an expression. Only building makes a payload,
and the new payload is another one than all those that are still held or bound. Copying a value
copies its handle.
-/

namespace FieldPredicate

/-- What a program holds, and the table that it has made. -/
structure Store where
  held : List Value
  table : SymbolTable

namespace Store

def empty : Store := ⟨[], .empty⟩

def hold (store : Store) (value : Value) : Store :=
  { store with held := value :: store.held }

def bind (store : Store) (name : String) (value : Value) : Store :=
  { store with table := store.table.bind name value }

/-- The value is held or bound. -/
def Root (store : Store) (value : Value) : Prop :=
  value ∈ store.held ∨ ∃ name, store.table.get? name = some value

/-- The value lies within a held or a bound one. -/
def Live (store : Store) (value : Value) : Prop :=
  ∃ root, store.Root root ∧ root.Reaches value

/-- One step of a program. -/
inductive Step (store : Store) : Store → Prop
  /-- A value is built of held ones. Its payload, if it has one, is new. -/
  | build {value : Value} : (∀ part, value.Holds part → part ∈ store.held) →
      (∀ id other, value.identity? = some id → store.Live other → other.identity? ≠ some id) →
      Step store (store.hold value)
  /-- A handle to a bound value is copied. -/
  | take {name : String} {value : Value} : store.table.get? name = some value →
      Step store (store.hold value)
  | evaluate {e : Expr} {value : Value} : eval store.table e = .ok value →
      Step store (store.hold value)
  | bind {value : Value} (name : String) : value ∈ store.held → Step store (store.bind name value)
  /-- Some held values are dropped, or held in another order. -/
  | keep {held : List Value} : held ⊆ store.held → Step store { store with held := held }

/-- The store is what some program has made. -/
def Reached (store : Store) : Prop :=
  Relation.ReflTransGen Step empty store

end Store

end FieldPredicate
