import FieldPredicate.Value

/-!
# Payloads and their identities

A value holds others: a pointer its target, a structure its fields, a map its entries, a slice its
items. `Holds` is one such step and `Reaches` any number of them. `identities` lists the identities
of all payloads of a value, and `rename` changes them and nothing else.
-/

namespace FieldPredicate.Value

/-- The second value is part of the payload of the first. -/
inductive Holds : Value → Value → Prop
  | item {id : Identity} {items : List Value} {value : Value} :
      value ∈ items → Holds (.slice id items) value
  | key {id : Identity} {entries : List (Value × Value)} {entry : Value × Value} :
      entry ∈ entries → Holds (.map id entries) entry.1
  | entry {id : Identity} {entries : List (Value × Value)} {entry : Value × Value} :
      entry ∈ entries → Holds (.map id entries) entry.2
  | target {id : Identity} {value : Value} : Holds (.pointer id value) value
  | field {id : Identity} {name : String} {fields : List (String × Value)}
      {field : String × Value} : field ∈ fields → Holds (.struct id name fields) field.2

/-- The second value is the first one, or lies in payloads within it. -/
inductive Reaches (start : Value) : Value → Prop
  | refl : Reaches start start
  | step {middle value : Value} :
      Reaches start middle → Holds middle value → Reaches start value

mutual

/-- The value with other identities. -/
def rename (r : Identity → Identity) : Value → Value
  | .slice id items => .slice (r id) (renameItems r items)
  | .map id entries => .map (r id) (renameEntries r entries)
  | .pointer id target => .pointer (r id) (target.rename r)
  | .struct id name fields => .struct (r id) name (renameFields r fields)
  | value => value

def renameItems (r : Identity → Identity) : List Value → List Value
  | [] => []
  | value :: rest => value.rename r :: renameItems r rest

def renameEntries (r : Identity → Identity) : List (Value × Value) → List (Value × Value)
  | [] => []
  | (key, value) :: rest => (key.rename r, value.rename r) :: renameEntries r rest

def renameFields (r : Identity → Identity) : List (String × Value) → List (String × Value)
  | [] => []
  | (name, value) :: rest => (name, value.rename r) :: renameFields r rest

end

@[simp] theorem kind_rename (r : Identity → Identity) (value : Value) :
    (value.rename r).kind = value.kind := by
  cases value <;> simp [rename, kind]

@[simp] theorem identity?_rename (r : Identity → Identity) (value : Value) :
    (value.rename r).identity? = value.identity?.map r := by
  cases value <;> simp [rename, identity?]

theorem rename_of_identity? (r : Identity → Identity) {value : Value}
    (h : value.identity? = none) : value.rename r = value := by
  cases value with
  | slice | map | pointer | struct => cases h
  | _ => rfl

theorem rename_eq_iff {r : Identity → Identity} {value other : Value}
    (h : value.identity? = none) : other.rename r = value ↔ other = value := by
  constructor
  · intro heq
    have hother : other.identity? = none := by
      have hids := identity?_rename r other
      rw [heq, h] at hids
      exact Option.map_eq_none_iff.mp hids.symm
    rwa [rename_of_identity? r hother] at heq
  · rintro rfl
    exact rename_of_identity? r h

theorem renameFields_eq_map (r : Identity → Identity) (fields : List (String × Value)) :
    renameFields r fields = fields.map fun field => (field.1, field.2.rename r) := by
  induction fields with
  | nil => rfl
  | cons field rest ih => simp [renameFields, ih]

mutual

/-- The identities of all payloads, each before those of the payloads within it. -/
def identities : Value → List Identity
  | .slice id items => id :: itemIdentities items
  | .map id entries => id :: entryIdentities entries
  | .pointer id target => id :: target.identities
  | .struct id _ fields => id :: fieldIdentities fields
  | _ => []

def itemIdentities : List Value → List Identity
  | [] => []
  | value :: rest => value.identities ++ itemIdentities rest

def entryIdentities : List (Value × Value) → List Identity
  | [] => []
  | (key, value) :: rest => key.identities ++ (value.identities ++ entryIdentities rest)

def fieldIdentities : List (String × Value) → List Identity
  | [] => []
  | (_, value) :: rest => value.identities ++ fieldIdentities rest

end

theorem Reaches.trans {a b c : Value} (hab : Reaches a b) (hbc : Reaches b c) : Reaches a c := by
  induction hbc with
  | refl => exact hab
  | step _ hstep ih => exact .step ih hstep

end FieldPredicate.Value
