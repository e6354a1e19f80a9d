import FieldPredicate.SymbolTable

/-!
# The last binding of a name counts

What is bound is found under its name, and finding any other name is not affected. By induction
over the bindings, a table that is made of a list finds the last entry of every name.
-/

namespace FieldPredicate.SymbolTable

section Place

variable {name other : String} {value : Value} {bindings : List (String × Value)}

@[simp] theorem find?_place_self :
    (place name value bindings).2.find? (·.1 = name) = some (name, value) := by
  induction bindings with
  | nil => simp [place]
  | cons head rest ih =>
      obtain ⟨first, bound⟩ := head
      rw [place]
      split
      · simp
      · split
        · simp
        · rename_i hne
          have hfirst : ¬ first = name := fun heq => hne heq.symm
          simpa [hfirst] using ih

theorem find?_place_of_ne (h : other ≠ name) :
    (place name value bindings).2.find? (·.1 = other) = bindings.find? (·.1 = other) := by
  have hname : ¬ name = other := fun heq => h heq.symm
  induction bindings with
  | nil => simp [place, hname]
  | cons head rest ih =>
      obtain ⟨first, bound⟩ := head
      rw [place]
      split
      · simp [hname]
      · split
        · rename_i heq
          subst heq
          simp [hname]
        · simp only [List.find?_cons, ih]

end Place

@[simp, grind =] theorem get?_empty (name : String) : empty.get? name = none := rfl

@[simp, grind =] theorem get?_bind_self (table : SymbolTable) (name : String) (value : Value) :
    (table.bind name value).get? name = some value := by
  simp [get?, bind, insert]

@[grind =] theorem get?_bind_of_ne (table : SymbolTable) {name other : String} (value : Value)
    (h : other ≠ name) : (table.bind name value).get? other = table.get? other := by
  simp only [get?, bind, insert, find?_place_of_ne h]

/-- The last entry of a name in a list of bindings. -/
def last? (bindings : List (String × Value)) (name : String) : Option Value :=
  (bindings.reverse.find? (·.1 = name)).map (·.2)

@[grind =] theorem last?_cons (name : String) (value : Value) (rest : List (String × Value))
    (other : String) :
    last? ((name, value) :: rest) other =
      (last? rest other).or (if name = other then some value else none) := by
  simp only [last?, List.reverse_cons, List.find?_append, List.find?_singleton]
  cases rest.reverse.find? (·.1 = other) with
  | none => by_cases h : name = other <;> simp [h]
  | some binding => rfl

@[simp] theorem last?_append (front rest : List (String × Value)) (name : String) :
    last? (front ++ rest) name = (last? rest name).or (last? front name) := by
  simp only [last?, List.reverse_append, List.find?_append, Option.map_or]

/-- The bindings are made one after the other, so an earlier one is found only where no later one
is. -/
@[simp] theorem get?_extend (table : SymbolTable) (bindings : List (String × Value))
    (name : String) :
    (table.extend bindings).get? name = (last? bindings name).or (table.get? name) := by
  induction bindings generalizing table with
  | nil => rfl
  | cons binding rest ih =>
      obtain ⟨first, value⟩ := binding
      have hstep : table.extend ((first, value) :: rest) = (table.bind first value).extend rest :=
        rfl
      rw [hstep, ih, last?_cons, Option.or_assoc]
      by_cases h : first = name <;> grind

@[simp] theorem get?_ofList (bindings : List (String × Value)) (name : String) :
    (ofList bindings).get? name = last? bindings name := by
  rw [ofList, get?_extend, get?_empty, Option.or_none]

theorem find?_eq_none_iff {bindings : List (String × Value)} {name : String} :
    (bindings.find? (·.1 = name)).map (·.2) = none ↔ name ∉ bindings.map (·.1) := by
  rw [Option.map_eq_none_iff, List.find?_eq_none, List.mem_map]
  simp only [decide_eq_true_eq, not_exists, not_and]

theorem last?_eq_none_iff {bindings : List (String × Value)} {name : String} :
    last? bindings name = none ↔ name ∉ bindings.map (·.1) := by
  rw [last?, find?_eq_none_iff, List.map_reverse, List.mem_reverse]

/-- Where no name is bound twice, every binding is found. -/
theorem last?_of_mem {bindings : List (String × Value)} (h : (bindings.map (·.1)).Nodup)
    {binding : String × Value} (hmem : binding ∈ bindings) :
    last? bindings binding.1 = some binding.2 := by
  induction bindings with
  | nil => cases hmem
  | cons head rest ih =>
      obtain ⟨hhead, hrest⟩ := List.nodup_cons.mp h
      obtain ⟨first, value⟩ := head
      rw [last?_cons]
      rcases List.mem_cons.mp hmem with rfl | hmem
      · simp [last?_eq_none_iff.mpr hhead]
      · simp [ih hrest hmem]

end FieldPredicate.SymbolTable
