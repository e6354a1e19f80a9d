import FieldPredicate.Eval
import FieldPredicate.Expr.Read
import FieldPredicate.Token.Scan

/-!
# Predicates

A predicate is text together with the expression it was read as. Its verdict is the truth value of
the expression.
-/

namespace FieldPredicate

/-- A compiled predicate. The name serves diagnostics only. -/
structure Predicate where
  name : String
  source : String
  expr : Expr
  deriving DecidableEq

namespace Predicate

def compile (name source : String) : Except Failure Predicate :=
  match Expr.parse (tokenize source) with
  | .ok expr => .ok ⟨name, source, expr⟩
  | .error e => .error (.ofParse e)

def evaluate (predicate : Predicate) (table : SymbolTable) : Except EvalError Value :=
  eval table predicate.expr

/-- The verdict of the predicate, whose value has to be a boolean. -/
def test (predicate : Predicate) (table : SymbolTable) : Except EvalError Bool :=
  match predicate.evaluate table with
  | .ok (.bool verdict) => .ok verdict
  | .ok value => .error (.notBoolean value.kind)
  | .error e => .error e

end Predicate

/-- The value of an expression that is given as text. -/
def evaluate (name source : String) (table : SymbolTable) : Except Failure Value :=
  match Predicate.compile name source with
  | .ok predicate => (predicate.evaluate table).mapError .eval
  | .error e => .error e

end FieldPredicate
