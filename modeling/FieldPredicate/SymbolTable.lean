import FieldPredicate.Value

/-!
# Symbol tables

A table binds each of its names to one value. The bindings are kept in increasing order of their
names, so two tables that bind the same names to the same values are equal, whatever the history
of either.
-/

namespace FieldPredicate

def Binding.Before (a b : String × Value) : Prop :=
  a.1 < b.1

structure SymbolTable where
  bindings : List (String × Value)
  sorted : bindings.Pairwise Binding.Before

namespace SymbolTable

/-- Binds a name among sorted bindings, and gives back the value that it replaces. -/
def place (name : String) (value : Value) :
    List (String × Value) → Option Value × List (String × Value)
  | [] => (none, [(name, value)])
  | (other, bound) :: rest =>
      if name < other then (none, (name, value) :: (other, bound) :: rest)
      else if name = other then (some bound, (name, value) :: rest)
      else ((place name value rest).1, (other, bound) :: (place name value rest).2)

theorem mem_place {name : String} {value : Value} {binding : String × Value}
    {bindings : List (String × Value)} (h : binding ∈ (place name value bindings).2) :
    binding = (name, value) ∨ binding ∈ bindings := by
  induction bindings with
  | nil => simpa [place] using h
  | cons head rest ih =>
      obtain ⟨other, bound⟩ := head
      rw [place] at h
      split at h
      · simpa using h
      · split at h
        · simp only [List.mem_cons] at h ⊢
          exact h.imp id Or.inr
        · simp only [List.mem_cons] at h ⊢
          rcases h with rfl | h
          · exact Or.inr (Or.inl rfl)
          · exact (ih h).imp id Or.inr

theorem place_sorted (name : String) (value : Value) {bindings : List (String × Value)}
    (h : bindings.Pairwise Binding.Before) :
    (place name value bindings).2.Pairwise Binding.Before := by
  induction bindings with
  | nil => simp [place]
  | cons head rest ih =>
      obtain ⟨other, bound⟩ := head
      obtain ⟨hhead, hrest⟩ := List.pairwise_cons.mp h
      rw [place]
      split
      · rename_i hlt
        refine List.pairwise_cons.mpr ⟨?_, h⟩
        intro binding hmem
        rcases List.mem_cons.mp hmem with rfl | hmem
        · exact hlt
        · exact String.lt_trans hlt (hhead binding hmem)
      · rename_i hnot
        split
        · rename_i heq
          subst heq
          exact List.pairwise_cons.mpr ⟨hhead, hrest⟩
        · rename_i hne
          refine List.pairwise_cons.mpr ⟨?_, ih hrest⟩
          intro binding hmem
          rcases mem_place hmem with rfl | hmem
          · exact Std.lt_of_le_of_ne (Std.not_lt.mp hnot) (Ne.symm hne)
          · exact hhead binding hmem

def empty : SymbolTable := ⟨[], List.Pairwise.nil⟩

/-- Binds a name, and gives back the value that it replaces. -/
def insert (table : SymbolTable) (name : String) (value : Value) : Option Value × SymbolTable :=
  ((place name value table.bindings).1,
    ⟨(place name value table.bindings).2, place_sorted name value table.sorted⟩)

def bind (table : SymbolTable) (name : String) (value : Value) : SymbolTable :=
  (table.insert name value).2

/-- The table with more bindings, made one after the other. -/
def extend (table : SymbolTable) (bindings : List (String × Value)) : SymbolTable :=
  bindings.foldl (fun table binding => table.bind binding.1 binding.2) table

def ofList (bindings : List (String × Value)) : SymbolTable :=
  empty.extend bindings

def get? (table : SymbolTable) (name : String) : Option Value :=
  (table.bindings.find? (·.1 = name)).map (·.2)

def contains (table : SymbolTable) (name : String) : Bool :=
  table.bindings.any (·.1 = name)

def size (table : SymbolTable) : Nat :=
  table.bindings.length

def isEmpty (table : SymbolTable) : Bool :=
  table.bindings.isEmpty

def toList (table : SymbolTable) : List (String × Value) :=
  table.bindings

end SymbolTable

end FieldPredicate
