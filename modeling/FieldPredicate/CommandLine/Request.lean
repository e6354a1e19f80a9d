import FieldPredicate.Check

/-!
# Requests

A request asks for the evaluation of one predicate. The expressions that it binds to names, and to
the placeholder, are evaluated on their own, in their order and before the predicate is compiled.
How a request is read from arguments, and what is wrong with a log filter, is left open: a run gets
both as functions.
-/

namespace FieldPredicate.CommandLine

structure Request where
  predicate : String
  name : String
  bindings : List (String × String)
  value : Option String
  logLevel : String
  deriving DecidableEq

structure Outcome where
  exit : Nat
  stdout : String
  stderr : String
  deriving DecidableEq

/-- The table of names bound to the values of expressions, or the first failure with its name. -/
def bindAll : List (String × String) → SymbolTable → Except (String × Failure) SymbolTable
  | [], table => .ok table
  | (name, expression) :: rest, table =>
      match evaluate name expression SymbolTable.empty with
      | .ok value => bindAll rest (table.bind name value)
      | .error e => .error (name, e)

namespace Request

/-- The bindings in the order in which they are made. The placeholder comes last. -/
def allBindings (request : Request) : List (String × String) :=
  request.bindings ++ (request.value.map fun expression => (placeholder, expression)).toList

def verdict (request : Request) : Except (String × Failure) Bool :=
  match bindAll request.allBindings SymbolTable.empty with
  | .error e => .error e
  | .ok table =>
      match Predicate.compile request.name request.predicate with
      | .error e => .error (request.name, e)
      | .ok predicate => (predicate.test table).mapError fun e => (request.name, .eval e)

/-- What the request leaves behind. A log filter that is no filter ends the run at once. -/
def outcome (filterError? : String → Option String) (request : Request) : Outcome :=
  match filterError? request.logLevel with
  | some reason =>
      ⟨1, "", "invalid log level filter " ++ request.logLevel ++ ": " ++ reason ++ "\n"⟩
  | none =>
      match request.verdict with
      | .ok true => ⟨0, "", ""⟩
      | .ok false =>
          ⟨1, "", request.name ++ ": " ++ Text.quote request.predicate ++ " not met\n"⟩
      | .error (name, e) => ⟨1, "", name ++ ": " ++ e.message ++ "\n"⟩

end Request

/-- What a run leaves behind. Arguments that ask for no evaluation end it with an outcome of their
own. -/
def runWith (readArguments : List String → Except Outcome Request)
    (filterError? : String → Option String) (arguments : List String) : Outcome :=
  match readArguments arguments with
  | .ok request => request.outcome filterError?
  | .error outcome => outcome

end FieldPredicate.CommandLine
