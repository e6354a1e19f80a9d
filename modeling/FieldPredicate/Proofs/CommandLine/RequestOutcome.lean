import FieldPredicate.CommandLine.Request
import FieldPredicate.Proofs.Check.FailFast
import FieldPredicate.Proofs.SymbolTable.BindingOrder
import Mathlib.Data.List.Forall2

/-!
# A request decides the outcome of a run

What a request asks for is said with single evaluations: every bound expression has its value on
the empty table, a name finds the value of its last binding, and the placeholder the value that is
given for it. The request holds if there is such a table and the predicate is met on it. A run then
ends with status 0 and otherwise reports the first failure, whatever has read its arguments.
-/

namespace FieldPredicate.CommandLine

/-! ## What a request asks for -/

def Evaluates (name expression : String) (value : Value) : Prop :=
  evaluate name expression .empty = .ok value

/-- The name is bound to the value that the expression has on its own. -/
def HasValue (binding : String × String) (bound : String × Value) : Prop :=
  bound.1 = binding.1 ∧ Evaluates binding.1 binding.2 bound.2

namespace Request

/-- The table that the request asks for. -/
def Binds (request : Request) (table : SymbolTable) : Prop :=
  ∃ bound placed,
    List.Forall₂ HasValue request.bindings bound ∧
    Option.Rel (Evaluates "?") request.value placed ∧
    (∀ name, name ≠ "?" → table.get? name = SymbolTable.last? bound name) ∧
    table.get? "?" = placed.or (SymbolTable.last? bound "?")

def Holds (request : Request) : Prop :=
  ∃ table, request.Binds table ∧ Met request.name request.predicate table

/-- What is reported of the first failure. -/
inductive Reports (request : Request) : String → Prop
  | binding {front rest : List (String × String)} {name expression : String}
      {bound : List (String × Value)} {failure : Failure} :
      request.bindings = front ++ (name, expression) :: rest → List.Forall₂ HasValue front bound →
      evaluate name expression .empty = .error failure →
      Reports request (name ++ ": " ++ failure.message ++ "\n")
  | value {expression : String} {bound : List (String × Value)} {failure : Failure} :
      List.Forall₂ HasValue request.bindings bound → request.value = some expression →
      evaluate "?" expression .empty = .error failure →
      Reports request ("?: " ++ failure.message ++ "\n")
  | compile {table : SymbolTable} {failure : Failure} :
      request.Binds table → Predicate.compile request.name request.predicate = .error failure →
      Reports request (request.name ++ ": " ++ failure.message ++ "\n")
  | evaluate {table : SymbolTable} {predicate : Predicate} {error : EvalError} :
      request.Binds table → Predicate.compile request.name request.predicate = .ok predicate →
      predicate.test table = .error error →
      Reports request (request.name ++ ": could not be evaluated: " ++ error.message ++ "\n")
  | unmet {table : SymbolTable} {predicate : Predicate} :
      request.Binds table → Predicate.compile request.name request.predicate = .ok predicate →
      predicate.test table = .ok false →
      Reports request (request.name ++ ": " ++ Text.quote request.predicate ++ " not met\n")

end Request

/-! ## Bindings in their order -/

section Bindings

variable {front bindings : List (String × String)} {bound : List (String × Value)}

theorem bindAll_append (h : List.Forall₂ HasValue front bound) (rest : List (String × String))
    (table : SymbolTable) :
    bindAll (front ++ rest) table = bindAll rest (table.extend bound) := by
  induction h generalizing table with
  | nil => rfl
  | @cons binding entry front bound hvalue hfront ih =>
      obtain ⟨name, value⟩ := entry
      obtain ⟨rfl, hvalue⟩ := hvalue
      rw [List.cons_append, bindAll, hvalue]
      exact ih (table.bind binding.1 value)

theorem bindAll_of_failure (h : List.Forall₂ HasValue front bound) {name expression : String}
    {failure : Failure} (hfailure : evaluate name expression .empty = .error failure)
    (rest : List (String × String)) (table : SymbolTable) :
    bindAll (front ++ (name, expression) :: rest) table = .error (name, failure) := by
  rw [bindAll_append h, bindAll, hfailure]

theorem hasValues_or_fails (bindings : List (String × String)) :
    (∃ bound, List.Forall₂ HasValue bindings bound) ∨
      ∃ front name expression rest bound failure,
        bindings = front ++ (name, expression) :: rest ∧ List.Forall₂ HasValue front bound ∧
          evaluate name expression .empty = .error failure := by
  induction bindings with
  | nil => exact .inl ⟨[], .nil⟩
  | cons binding bindings ih =>
      obtain ⟨name, expression⟩ := binding
      cases hvalue : evaluate name expression .empty with
      | error failure => exact .inr ⟨[], name, expression, bindings, [], failure, rfl, .nil, hvalue⟩
      | ok value =>
          have hhead : HasValue (name, expression) (name, value) := ⟨rfl, hvalue⟩
          rcases ih with ⟨bound, hbound⟩ |
            ⟨front, other, text, rest, bound, failure, rfl, hfront, hfails⟩
          · exact .inl ⟨(name, value) :: bound, .cons hhead hbound⟩
          · exact .inr ⟨(name, expression) :: front, other, text, rest, (name, value) :: bound,
              failure, rfl, .cons hhead hfront, hfails⟩

end Bindings

namespace Request

variable {request : Request} {table : SymbolTable} {text : String}

/-- The table of what is bound, and last of the placeholder. -/
def tableOf (bound : List (String × Value)) (placed : Option Value) : SymbolTable :=
  .ofList (bound ++ (placed.map fun value => ("?", value)).toList)

section Table

variable {bound : List (String × Value)} {placed : Option Value}

theorem get?_tableOf_self :
    (tableOf bound placed).get? "?" = placed.or (SymbolTable.last? bound "?") := by
  rw [tableOf, SymbolTable.get?_ofList, SymbolTable.last?_append]
  cases placed with
  | none => rfl
  | some value => rfl

theorem get?_tableOf_of_ne {name : String} (h : name ≠ "?") :
    (tableOf bound placed).get? name = SymbolTable.last? bound name := by
  rw [tableOf, SymbolTable.get?_ofList, SymbolTable.last?_append]
  cases placed with
  | none => rfl
  | some value =>
      have hlast : SymbolTable.last? [("?", value)] name = none :=
        SymbolTable.last?_eq_none_iff.mpr (by simpa using h)
      simp [hlast]

variable (hbound : List.Forall₂ HasValue request.bindings bound)
  (hplaced : Option.Rel (Evaluates "?") request.value placed)

include hbound hplaced

theorem binds_tableOf : request.Binds (tableOf bound placed) :=
  ⟨bound, placed, hbound, hplaced, fun _ h => get?_tableOf_of_ne h, get?_tableOf_self⟩

theorem bindAll_allBindings :
    bindAll request.allBindings .empty = .ok (tableOf bound placed) := by
  have hplaceholder : List.Forall₂ HasValue
      (request.value.map fun expression => (placeholder, expression)).toList
      (placed.map fun value => ("?", value)).toList := by
    generalize request.value = value at hplaced
    cases hplaced with
    | none => exact .nil
    | some hvalue => exact .cons ⟨rfl, hvalue⟩ .nil
  have hall := List.rel_append hbound hplaceholder
  have hbind := bindAll_append hall [] .empty
  rw [List.append_nil] at hbind
  exact hbind

end Table

theorem bindAll_of_binds (h : request.Binds table) :
    bindAll request.allBindings .empty = .ok table := by
  obtain ⟨bound, placed, hbound, hplaced, hothers, hself⟩ := h
  have htable : tableOf bound placed = table := by
    apply SymbolTable.ext_get?
    intro name
    by_cases hname : name = "?"
    · rw [hname, get?_tableOf_self, hself]
    · rw [get?_tableOf_of_ne hname, hothers name hname]
  rw [bindAll_allBindings hbound hplaced, htable]

/-! ## The outcome of a run -/

theorem verdict_of_compile_error {failure : Failure} (hbinds : request.Binds table)
    (hcompile : Predicate.compile request.name request.predicate = .error failure) :
    request.verdict = .error (request.name, failure) := by
  rw [verdict, bindAll_of_binds hbinds]
  simp only [hcompile]

theorem verdict_of_compile {predicate : Predicate} (hbinds : request.Binds table)
    (hcompile : Predicate.compile request.name request.predicate = .ok predicate) :
    request.verdict =
      (predicate.test table).mapError fun error => (request.name, .eval error) := by
  rw [verdict, bindAll_of_binds hbinds]
  simp only [hcompile]

theorem verdict_of_bindAll_error {name : String} {failure : Failure}
    (h : bindAll request.allBindings .empty = .error (name, failure)) :
    request.verdict = .error (name, failure) := by
  rw [verdict, h]

theorem message_of_evaluation (name : String) (error : EvalError) :
    name ++ ": " ++ (Failure.eval error).message =
      name ++ ": could not be evaluated: " ++ error.message := by
  have hmessage : (Failure.eval error).message = "could not be evaluated: " ++ error.message := rfl
  have hcolon : ": could not be evaluated: " = ": " ++ "could not be evaluated: " := by decide
  rw [hmessage, hcolon]
  simp only [String.append_assoc]

section Outcome

variable {filterError? : String → Option String} (hfilter : filterError? request.logLevel = none)

include hfilter

theorem outcome_of_verdict_error {name : String} {failure : Failure}
    (h : request.verdict = .error (name, failure)) :
    request.outcome filterError? = ⟨1, "", name ++ ": " ++ failure.message ++ "\n"⟩ := by
  simp only [outcome, hfilter, h]

theorem outcome_of_holds (h : request.Holds) : request.outcome filterError? = ⟨0, "", ""⟩ := by
  obtain ⟨table, hbinds, predicate, hcompile, htest⟩ := h
  have hverdict : request.verdict = .ok true := by
    rw [verdict_of_compile hbinds hcompile, htest]
    rfl
  simp only [outcome, hfilter, hverdict]

theorem outcome_of_reports (h : request.Reports text) :
    request.outcome filterError? = ⟨1, "", text⟩ := by
  cases h with
  | @binding front rest name expression bound failure hbindings hfront hfails =>
      have hbind : bindAll request.allBindings .empty = .error (name, failure) := by
        rw [allBindings, hbindings, List.append_assoc]
        exact bindAll_of_failure hfront hfails _ _
      exact outcome_of_verdict_error hfilter (verdict_of_bindAll_error hbind)
  | @value expression bound failure hbound hvalue hfails =>
      have hbind : bindAll request.allBindings .empty = .error ("?", failure) := by
        rw [allBindings, hvalue]
        exact bindAll_of_failure hbound hfails _ _
      exact outcome_of_verdict_error hfilter (verdict_of_bindAll_error hbind)
  | @compile table failure hbinds hcompile =>
      have hverdict := verdict_of_compile_error hbinds hcompile
      exact outcome_of_verdict_error hfilter hverdict
  | @evaluate table predicate error hbinds hcompile htest =>
      have hverdict : request.verdict = .error (request.name, .eval error) := by
        rw [verdict_of_compile hbinds hcompile, htest]
        rfl
      rw [outcome_of_verdict_error hfilter hverdict, message_of_evaluation]
  | @unmet table predicate hbinds hcompile htest =>
      have hverdict : request.verdict = .ok false := by
        rw [verdict_of_compile hbinds hcompile, htest]
        rfl
      simp only [outcome, hfilter, hverdict]

end Outcome

theorem holds_or_reports_of_binds (hbinds : request.Binds table) :
    request.Holds ∨ ∃ text, request.Reports text := by
  cases hcompile : Predicate.compile request.name request.predicate with
  | error failure => exact .inr ⟨_, .compile hbinds hcompile⟩
  | ok predicate =>
      cases htest : predicate.test table with
      | error error => exact .inr ⟨_, .evaluate hbinds hcompile htest⟩
      | ok verdict =>
          cases verdict with
          | true => exact .inl ⟨table, hbinds, predicate, hcompile, htest⟩
          | false => exact .inr ⟨_, .unmet hbinds hcompile htest⟩

theorem holds_or_reports (request : Request) : request.Holds ∨ ∃ text, request.Reports text := by
  rcases hasValues_or_fails request.bindings with
    ⟨bound, hbound⟩ | ⟨front, name, expression, rest, bound, failure, hbindings, hfront, hfails⟩
  · cases hgiven : request.value with
    | none =>
        have hplaced : Option.Rel (Evaluates "?") request.value none := hgiven ▸ .none
        exact holds_or_reports_of_binds (binds_tableOf hbound hplaced)
    | some expression =>
        cases hvalue : evaluate "?" expression .empty with
        | error failure => exact .inr ⟨_, .value hbound hgiven hvalue⟩
        | ok value =>
            have hplaced : Option.Rel (Evaluates "?") request.value (some value) :=
              hgiven ▸ .some hvalue
            exact holds_or_reports_of_binds (binds_tableOf hbound hplaced)
  · exact .inr ⟨_, .binding hbindings hfront hfails⟩

end Request

/-! ## Whatever reads the arguments -/

/-- The request decides the outcome: status 0 and silence if it holds, and otherwise status 1 with
what it reports. -/
structure Request.Settles (request : Request) (outcome : Outcome) : Prop where
  exit : outcome.exit = 0 ↔ request.Holds
  holds : request.Holds → outcome = ⟨0, "", ""⟩
  fails : ¬ request.Holds → ∃ text, request.Reports text
  reports : ∀ text, request.Reports text → outcome = ⟨1, "", text⟩

/-- A run agrees with the library on the request that was read, however arguments are read and
whatever counts as a log filter, if the log filter of the request does. -/
theorem settles_runWith {readArguments : List String → Except Outcome Request}
    {filterError? : String → Option String} {arguments : List String} {request : Request}
    (hread : readArguments arguments = .ok request)
    (hfilter : filterError? request.logLevel = none) :
    request.Settles (runWith readArguments filterError? arguments) := by
  have hrun : runWith readArguments filterError? arguments = request.outcome filterError? := by
    rw [runWith, hread]
  have hholds : request.Holds → request.outcome filterError? = ⟨0, "", ""⟩ :=
    Request.outcome_of_holds hfilter
  have hreports : ∀ text, request.Reports text → request.outcome filterError? = ⟨1, "", text⟩ :=
    fun text => Request.outcome_of_reports hfilter
  rw [hrun]
  refine ⟨⟨?_, ?_⟩, hholds, request.holds_or_reports.resolve_left, hreports⟩
  · intro hexit
    rcases request.holds_or_reports with h | ⟨text, h⟩
    · exact h
    · rw [hreports text h] at hexit
      cases hexit
  · intro h
    rw [hholds h]

end FieldPredicate.CommandLine
