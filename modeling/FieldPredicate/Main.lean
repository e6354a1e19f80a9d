import FieldPredicate.CommandLine

/-!
# The program

Evaluates the predicate of its command line.
-/

def main (arguments : List String) : IO UInt32 := do
  let outcome := FieldPredicate.CommandLine.run arguments
  IO.print outcome.stdout
  IO.eprint outcome.stderr
  return outcome.exit.toUInt32
