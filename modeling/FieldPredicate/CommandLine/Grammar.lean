import FieldPredicate.CommandLine.Arguments
import Mathlib.Data.List.Forall2

/-!
# The grammar of command lines

A command line is a list of parts, the predicate and the values of options, in any order. The value
of an option follows the option in the same argument or is the next one, which then must not look
like an option. Two dashes end the options, and behind them the predicate may look like one. The
parts ask for an evaluation if they name one predicate, and options other than bindings at most
once.
-/

namespace FieldPredicate.CommandLine

/-- What one argument says, or an option and the argument behind it. -/
inductive Part where
  | predicate (text : String)
  | option (flag : Flag) (value : String)

def Flag.takesValue : Flag → Bool
  | .help | .version => false
  | _ => true

/-- The option as it is written, without its value. -/
inductive Flag.Opens : Flag → String → Prop
  | long {flag : Flag} {name : String} : Flag.ofLong? name = some flag → Opens flag ("--" ++ name)
  | short {flag : Flag} {c : Char} :
      Flag.ofShort? c = some flag → Opens flag ("-" ++ String.singleton c)

/-- The argument is neither an option nor the two dashes. -/
def IsPlain (argument : String) : Prop :=
  ∀ c rest, argument.toList ≠ '-' :: c :: rest

/-- The arguments say the part, if no two dashes stand before them. -/
inductive Part.Written : Part → List String → Prop
  | predicate {text : String} : IsPlain text → Written (.predicate text) [text]
  | apart {flag : Flag} {opening value : String} :
      flag.takesValue = true → flag.Opens opening → IsPlain value →
      Written (.option flag value) [opening, value]
  | joined {flag : Flag} {opening value : String} :
      flag.takesValue = true → flag.Opens opening →
      Written (.option flag value) [opening ++ "=" ++ value]
  | attached {flag : Flag} {c : Char} {value : String} :
      flag.takesValue = true → Flag.ofShort? c = some flag → value ≠ "" →
      value.toList.head? ≠ some '=' →
      Written (.option flag value) ["-" ++ String.singleton c ++ value]

/-- The command line says the parts. -/
inductive Spells : List String → List Part → Prop
  | nil : Spells [] []
  | dashes : Spells ["--"] []
  | verbatim (text : String) : Spells ["--", text] [.predicate text]
  | cons {part : Part} {written rest : List String} {parts : List Part} :
      part.Written written → Spells rest parts → Spells (written ++ rest) (part :: parts)

/-! ## What the parts ask for -/

def Part.predicate? : Part → Option String
  | .predicate text => some text
  | .option _ _ => none

def Part.value? (flag : Flag) : Part → Option String
  | .predicate _ => none
  | .option other value => if other = flag then some value else none

def predicatesOf (parts : List Part) : List String :=
  parts.filterMap Part.predicate?

/-- The values of an option in their order. -/
def valuesOf (flag : Flag) (parts : List Part) : List String :=
  parts.filterMap (Part.value? flag)

section

variable (text value : String) (flag other : Flag) (parts : List Part)

@[simp] theorem predicatesOf_nil : predicatesOf [] = [] := rfl

@[simp] theorem predicatesOf_predicate :
    predicatesOf (.predicate text :: parts) = text :: predicatesOf parts := rfl

@[simp] theorem predicatesOf_option :
    predicatesOf (.option flag value :: parts) = predicatesOf parts := rfl

@[simp] theorem valuesOf_nil : valuesOf flag [] = [] := rfl

@[simp] theorem valuesOf_predicate :
    valuesOf flag (.predicate text :: parts) = valuesOf flag parts := rfl

@[simp] theorem valuesOf_option :
    valuesOf flag (.option other value :: parts) =
      if other = flag then value :: valuesOf flag parts else valuesOf flag parts := by
  by_cases h : other = flag <;> simp [valuesOf, Part.value?, h]

end

/-- The first `=` separates the name, without the white space around it, from the expression. -/
def IsBinding (text : String) (binding : String × String) : Prop :=
  ∃ front : String, '=' ∉ front.toList ∧ text = front ++ "=" ++ binding.2 ∧
    binding.1 = Text.trim front ∧ binding.1 ≠ ""

/-- The value of an option that is given at most once. -/
def IsOnly (values : List String) (default value : String) : Prop :=
  values = [] ∧ value = default ∨ values = [value]

structure Asks (parts : List Part) (request : Request) : Prop where
  predicate : predicatesOf parts = [request.predicate]
  name : IsOnly (valuesOf .name parts) "predicate" request.name
  bindings : List.Forall₂ IsBinding (valuesOf .set parts) request.bindings
  value : valuesOf .value parts = request.value.toList
  logLevel : IsOnly (valuesOf .logLevel parts) "warn" request.logLevel

end FieldPredicate.CommandLine
