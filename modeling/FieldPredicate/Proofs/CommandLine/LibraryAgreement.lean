import FieldPredicate.CommandLine
import FieldPredicate.Proofs.CommandLine.Acceptance
import FieldPredicate.Proofs.CommandLine.RequestOutcome

/-!
# A run agrees with the library

The command line decides which request is read, and the request decides the outcome. Of log filters
nothing is used but that the default one is in order.
-/

namespace FieldPredicate.CommandLine

theorem filterError?_warn : filterError? "warn" = none := by
  decide +kernel

/-- A command line is accepted exactly if it says parts that ask for an evaluation, with the names
and expressions of its bindings around their first `=`. With the default log level a run then ends
with status 0 exactly if all expressions have values and the predicate is met on their table, and
it says nothing. Otherwise it ends with status 1 and reports the first failure. -/
theorem run_agrees_with_library (arguments : List String) (request : Request) :
    (Request.ofArguments arguments = .ok request ↔
      ∃ parts, Spells arguments parts ∧ Asks parts request) ∧
    (Request.ofArguments arguments = .ok request → request.logLevel = "warn" →
      ((run arguments).exit = 0 ↔ request.Holds) ∧
      (request.Holds → run arguments = ⟨0, "", ""⟩) ∧
      (¬ request.Holds → ∃ text, request.Reports text) ∧
      ∀ text, request.Reports text → run arguments = ⟨1, "", text⟩) := by
  refine ⟨Request.ofArguments_eq_ok_iff, ?_⟩
  intro haccepted hlevel
  have hread : readArguments arguments = .ok request := by
    rw [readArguments, haccepted]
    rfl
  have hfilter : filterError? request.logLevel = none := by
    rw [hlevel, filterError?_warn]
  have hsettles : request.Settles (run arguments) := settles_runWith hread hfilter
  exact ⟨hsettles.exit, hsettles.holds, hsettles.fails, hsettles.reports⟩

/-- The division is the first failure, although the placeholder has no value and the predicate
breaks off. A later binding replaces an earlier one, and behind the dashes a predicate may begin
with a minus. -/
theorem run_reports_division_and_minds_later_binding :
    run ["-s", "a=1", "--set=b = 1/0", "--value", "c", "a >"] =
      ⟨1, "", "b: could not be evaluated: integer division by zero\n"⟩ ∧
    run ["-s", "a=1", "-sa=2", "--value=1", "--", "-a < ?"] = ⟨0, "", ""⟩ := by
  have hone : tokenize "1" = [⟨.integer, "1"⟩, .eof] := by decide +kernel
  have htwo : tokenize "2" = [⟨.integer, "2"⟩, .eof] := by decide +kernel
  have hquotient : tokenize " 1/0" = [⟨.integer, "1"⟩, ⟨.slash, "/"⟩, ⟨.integer, "0"⟩, .eof] := by
    decide +kernel
  have hless : tokenize "-a < ?" =
      [⟨.minus, "-"⟩, ⟨.symbol, "a"⟩, ⟨.less, "<"⟩, ⟨.symbol, "?"⟩, .eof] := by
    decide +kernel
  have hvalue : ∀ name, Evaluates name "1" (.int 1) := by
    intro name
    rw [Evaluates, evaluate, Predicate.compile, hone]
    rfl
  have hearlier : HasValue ("a", "1") ("a", .int 1) := ⟨rfl, hvalue "a"⟩
  constructor
  · have hfails : evaluate "b" " 1/0" .empty = .error (.eval .divisionByZero) := by
      rw [evaluate, Predicate.compile, hquotient]
      rfl
    have haccepted : Request.ofArguments ["-s", "a=1", "--set=b = 1/0", "--value", "c", "a >"] =
        .ok ⟨"a >", "predicate", [("a", "1"), ("b", " 1/0")], some "c", "warn"⟩ := by
      decide +kernel
    have hreports : Request.Reports
        ⟨"a >", "predicate", [("a", "1"), ("b", " 1/0")], some "c", "warn"⟩
        ("b" ++ ": " ++ (Failure.eval .divisionByZero).message ++ "\n") :=
      .binding rfl (.cons hearlier .nil) hfails
    have htext : "b" ++ ": " ++ (Failure.eval .divisionByZero).message ++ "\n" =
        "b: could not be evaluated: integer division by zero\n" := by
      decide +kernel
    rw [← htext]
    exact ((run_agrees_with_library _ _).2 haccepted rfl).2.2.2 _ hreports
  · have hlater : HasValue ("a", "2") ("a", .int 2) := by
      refine ⟨rfl, ?_⟩
      rw [Evaluates, evaluate, Predicate.compile, htwo]
      rfl
    have haccepted : Request.ofArguments ["-s", "a=1", "-sa=2", "--value=1", "--", "-a < ?"] =
        .ok ⟨"-a < ?", "predicate", [("a", "1"), ("a", "2")], some "1", "warn"⟩ := by
      decide +kernel
    have hbinds : Request.Binds
        ⟨"-a < ?", "predicate", [("a", "1"), ("a", "2")], some "1", "warn"⟩
        (Request.tableOf [("a", .int 1), ("a", .int 2)] (some (.int 1))) := by
      apply Request.binds_tableOf
      · exact .cons hearlier (.cons hlater .nil)
      · exact .some (hvalue "?")
    have hcompile : Predicate.compile "predicate" "-a < ?" = .ok ⟨"predicate", "-a < ?",
        .binary (.unary .negate (.symbol "a")) .less (.symbol "?")⟩ := by
      rw [Predicate.compile, hless]
      rfl
    have hmet : Met "predicate" "-a < ?"
        (Request.tableOf [("a", .int 1), ("a", .int 2)] (some (.int 1))) :=
      ⟨_, hcompile, by decide +kernel⟩
    exact ((run_agrees_with_library _ _).2 haccepted rfl).2.1 ⟨_, hbinds, hmet⟩

end FieldPredicate.CommandLine
