import FieldPredicate.Eval
import FieldPredicate.Expr.Names
import FieldPredicate.Proofs.SymbolTable.LastBinding

/-!
# Replacing symbols and binding names

Evaluation reads a table only through the names of the expression. So an expression whose symbols
are replaced has the value that it has on another table, if each replacement has the value of its
symbol there and the objects of selectors have the same values on both. A binding is one such other
table, and so is every table that agrees on the names.
-/

namespace FieldPredicate

section Replacement

variable {table other : SymbolTable}

theorem evalSymbol_congr {name : String} (h : table.get? name = other.get? name) :
    evalSymbol table name = evalSymbol other name := by
  rw [evalSymbol, evalSymbol, h]

@[simp] theorem evalSymbol_bind_self (table : SymbolTable) (name : String) (value : Value) :
    evalSymbol (table.bind name value) name = .ok value := by
  rw [evalSymbol, SymbolTable.get?_bind_self]

theorem evalSymbol_bind_of_ne (table : SymbolTable) {name bound : String} (value : Value)
    (h : name ≠ bound) : evalSymbol table name = evalSymbol (table.bind bound value) name :=
  evalSymbol_congr (table.get?_bind_of_ne value h).symm

/-- Symbols may be replaced by expressions that have their values on another table. -/
theorem eval_replace {assign : String → Expr} {e : Expr}
    (hsymbols : ∀ name ∈ e.symbols, eval table (assign name) = evalSymbol other name)
    (hobjects : ∀ name ∈ e.objects, evalSymbol table name = evalSymbol other name) :
    eval table (e.replace assign) = eval other e := by
  induction e with
  | symbol name => exact hsymbols name (List.mem_singleton_self name)
  | selector object member =>
      have hobject := hobjects object (List.mem_singleton_self object)
      have heval : evalSelector table object member = evalSelector other object member := by
        rw [evalSelector, evalSelector, hobject]
      exact heval
  | unary op operand ih =>
      rw [Expr.replace, eval, eval, ih hsymbols hobjects]
  | binary left op right ihleft ihright =>
      obtain ⟨hleft, hright⟩ := List.forall_mem_append.mp hsymbols
      obtain ⟨hleft', hright'⟩ := List.forall_mem_append.mp hobjects
      rw [Expr.replace, eval, eval, ihleft hleft hleft', ihright hright hright']
  | _ => rfl

/-- Evaluation depends only on the bindings of the names of the expression. -/
theorem eval_congr {e : Expr} (h : ∀ name ∈ e.names, table.get? name = other.get? name) :
    eval table e = eval other e := by
  -- Each symbol is replaced by itself.
  have heval : eval table (e.replace .symbol) = eval other e := by
    apply eval_replace
    · intro name hmem
      exact evalSymbol_congr (h name (Expr.mem_names_of_mem_symbols hmem))
    · intro name hmem
      exact evalSymbol_congr (h name (Expr.mem_names_of_mem_objects hmem))
  rwa [Expr.replace_symbol] at heval

theorem eval_subst {name : String} {replacement e : Expr} {value : Value}
    (hvalue : eval table replacement = .ok value) (hobjects : name ∉ e.objects) :
    eval table (e.subst name replacement) = eval (table.bind name value) e := by
  apply eval_replace
  · intro other _
    by_cases h : other = name
    · rw [if_pos h, h, hvalue, evalSymbol_bind_self]
    · rw [if_neg h, eval, evalSymbol_bind_of_ne table value h]
  · intro other hmem
    apply evalSymbol_bind_of_ne
    rintro rfl
    exact hobjects hmem

end Replacement

/-- A symbol that no selector has as its object may be replaced by any expression that has a value,
or else bound to that value. Only the names of an expression matter to it. Among them `nil` is no
exception: it has a meaning of its own only as long as it is not bound. -/
theorem eval_subst_eq_eval_bind (table : SymbolTable) (expr : Expr) :
    (∀ name replacement value, name ∉ expr.objects → eval table replacement = .ok value →
      eval table (expr.subst name replacement) = eval (table.bind name value) expr) ∧
    (∀ other : SymbolTable, (∀ name ∈ expr.names, other.get? name = table.get? name) →
      eval other expr = eval table expr) ∧
    (table.get? "nil" = none → eval table (.symbol "nil") = .ok .nil) ∧
    ∀ value, eval (table.bind "nil" value) (.symbol "nil") = .ok value := by
  refine ⟨?_, ?_, ?_, ?_⟩
  · intro name replacement value hobjects hvalue
    exact eval_subst hvalue hobjects
  · intro other hnames
    exact eval_congr hnames
  · intro hunbound
    simp [eval, evalSymbol, hunbound]
  · intro value
    exact evalSymbol_bind_self table "nil" value

/-- A pointer is equal to `nil` if `nil` is bound to that very pointer, and so it is to itself. -/
theorem eval_pointer_equal_bound_nil :
    eval (.ofList [("p", .pointer ⟨0⟩ (.int 5))])
        (.binary (.symbol "p") .equal (.symbol "p")) = .ok (.bool true) ∧
    eval ((SymbolTable.ofList [("p", .pointer ⟨0⟩ (.int 5))]).bind "nil" (.pointer ⟨0⟩ (.int 5)))
        (.binary (.symbol "p") .equal (.symbol "nil")) = .ok (.bool true) := by
  obtain ⟨hsubst, -, -, -⟩ := eval_subst_eq_eval_bind
    (.ofList [("p", .pointer ⟨0⟩ (.int 5))]) (.binary (.symbol "p") .equal (.symbol "nil"))
  have hbound := hsubst "nil" (.symbol "p") (.pointer ⟨0⟩ (.int 5)) (by decide) rfl
  have hself : eval (.ofList [("p", .pointer ⟨0⟩ (.int 5))])
      (.binary (.symbol "p") .equal (.symbol "p")) = .ok (.bool true) := rfl
  refine ⟨hself, ?_⟩
  rw [← hbound]
  exact hself

end FieldPredicate
