import FieldPredicate.CommandLine.Arguments
import FieldPredicate.CommandLine.LogFilter

/-!
# The command line

A command line evaluates one predicate. The exit status is 0 if the predicate holds, 1 if it does
not or cannot be evaluated, and 2 if the command line itself is refused. Requests and their outcomes
know nothing of how arguments and log filters are read, which comes in here.
-/

namespace FieldPredicate.CommandLine

def helpText : String :=
  "Field refinements: small boolean predicates checked against struct values.\n\n" ++
  "Usage: refine [OPTIONS] <PREDICATE>\n\n" ++
  "Arguments:\n" ++
  "  <PREDICATE>  The predicate to evaluate, for example `a > b && b >= 0`\n\n" ++
  "Options:\n" ++
  "  -n, --name <NAME>            Name used for the predicate in diagnostics " ++
    "[default: predicate]\n" ++
  "  -s, --set <NAME=EXPR>        Binds a symbol, as `name=expression`. " ++
    "The expression is evaluated on its own, so it may be any literal or constant expression\n" ++
  "      --value <EXPR>           Binds the placeholder `?` to the value of an expression\n" ++
  "      --log-level <LOG_LEVEL>  Log filter used when `RUST_LOG` is not set [default: warn]\n" ++
  "  -h, --help                   Print help\n" ++
  "  -V, --version                Print version\n"

/-- The first line that a terminal shows of a refused command line. The advice and the usage that
stand below it are left out. -/
def refusal (e : UsageError) : String :=
  "error: " ++ e.message ++ "\n"

/-- What is left behind where no evaluation is asked for. The output goes to no terminal. -/
def Stop.outcome : Stop → Outcome
  | .help => ⟨0, helpText, ""⟩
  | .version => ⟨0, "refine 0.1.0\n", ""⟩
  | .usage e => ⟨2, "", Text.plain (refusal e)⟩

def readArguments (arguments : List String) : Except Outcome Request :=
  (Request.ofArguments arguments).mapError Stop.outcome

def filterError? (filter : String) : Option String :=
  (LogFilter.error? filter).map LogFilter.FilterError.message

/-- What a run with the given arguments leaves behind. -/
def run (arguments : List String) : Outcome :=
  runWith readArguments filterError? arguments

end FieldPredicate.CommandLine
