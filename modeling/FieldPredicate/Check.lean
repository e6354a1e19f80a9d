import FieldPredicate.Error.Message
import FieldPredicate.Host
import FieldPredicate.Predicate
import FieldPredicate.Value.Render

/-!
# Checking structures

The fields of a structure may carry predicates. All fields are bound before any predicate is
tested, predicates are tested in the order of their fields, and the first one that does not hold
is reported. A single value is checked with a predicate about the placeholder `?`. A structure of
the host is checked through the values of its fields, which are made one after the other.
-/

namespace FieldPredicate

structure Field where
  name : String
  value : Value
  predicate : Option String

structure Record where
  typeName : String
  fields : List Field

/-- Why a predicate does not hold of a table, if so. -/
def failureCause? (name predicate : String) (table : SymbolTable) : Option Cause :=
  match Predicate.compile name predicate with
  | .error e => some (.failed e)
  | .ok compiled =>
      match compiled.test table with
      | .error e => some (.failed (.eval e))
      | .ok false => some .unsatisfied
      | .ok true => none

def checkField (typeName name : String) (value : Value) (predicate : String)
    (table : SymbolTable) : Except CheckError Unit :=
  match failureCause? name predicate table with
  | none => .ok ()
  | some cause => .error ⟨typeName, name, value.render, predicate, cause⟩

namespace Record

/-- The table of all fields. Of two fields with one name the later one counts. -/
def table (record : Record) : SymbolTable :=
  .ofList (record.fields.map fun field => (field.name, field.value))

def checkFields (typeName : String) (table : SymbolTable) : List Field → Except CheckError Unit
  | [] => .ok ()
  | field :: rest =>
      match field.predicate with
      | none => checkFields typeName table rest
      | some predicate =>
          match checkField typeName field.name field.value predicate table with
          | .error e => .error e
          | .ok () => checkFields typeName table rest

def check (record : Record) : Except CheckError Unit :=
  checkFields record.typeName record.table record.fields

def toValue (record : Record) (id : Identity) : Value :=
  .struct id record.typeName (record.fields.map fun field => (field.name, field.value))

end Record

/-- The symbol of the value under test. -/
def placeholder : String := "?"

def checkValue (typeName : String) (value : Value) (predicate : String) : Except CheckError Unit :=
  checkField typeName placeholder value predicate (SymbolTable.empty.bind placeholder value)

/-! ## Structures of the host -/

structure HostField where
  name : String
  data : HostValue
  predicate : Option String

/-- The fields with the values of their data, with payloads numbered from a given number on. -/
def HostField.toFields (next : Nat) : List HostField → List Field
  | [] => []
  | field :: rest =>
      let (value, after) := field.data.toValue next
      ⟨field.name, value, field.predicate⟩ :: toFields after rest

def Record.ofHost (next : Nat) (typeName : String) (fields : List HostField) : Record :=
  ⟨typeName, HostField.toFields next fields⟩

end FieldPredicate
