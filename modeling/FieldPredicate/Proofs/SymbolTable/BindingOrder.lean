import FieldPredicate.Proofs.SymbolTable.LastBinding

/-!
# The order of bindings with distinct names

Where no name is bound twice, finding a name is the same as having its binding among the bindings,
in whatever order they stand. A table keeps its bindings in the order of their names, so tables that
find the same values are equal, and bindings with distinct names make the same table in every order.
-/

namespace FieldPredicate.SymbolTable

section Lookup

variable {bindings : List (String × Value)} {name : String} {value : Value}

theorem find?_eq_some_iff_mem (h : (bindings.map (·.1)).Nodup) :
    (bindings.find? (·.1 = name)).map (·.2) = some value ↔ (name, value) ∈ bindings := by
  constructor
  · intro hfind
    obtain ⟨binding, hbinding, rfl⟩ := Option.map_eq_some_iff.mp hfind
    have hname : binding.1 = name := by simpa using List.find?_some hbinding
    rw [← hname]
    exact List.mem_of_find?_eq_some hbinding
  · intro hmem
    induction bindings with
    | nil => cases hmem
    | cons head rest ih =>
        obtain ⟨hhead, hrest⟩ := List.nodup_cons.mp h
        rcases List.mem_cons.mp hmem with rfl | hmem
        · simp
        · have hne : head.1 ≠ name := by
            rintro rfl
            exact hhead (List.mem_map.mpr ⟨_, hmem, rfl⟩)
          simpa [hne] using ih hrest hmem

theorem last?_eq_some_iff_mem (h : (bindings.map (·.1)).Nodup) :
    last? bindings name = some value ↔ (name, value) ∈ bindings := by
  have hreverse : (bindings.reverse.map (·.1)).Nodup :=
    ((List.reverse_perm bindings).map _).nodup_iff.mpr h
  rw [last?, find?_eq_some_iff_mem hreverse, List.mem_reverse]

end Lookup

/-! ## Tables with the same values -/

section Tables

variable {a b : SymbolTable}

theorem nodup_names (table : SymbolTable) : (table.bindings.map (·.1)).Nodup := by
  rw [List.Nodup, List.pairwise_map]
  apply table.sorted.imp
  intro first second hbefore heq
  rw [Binding.Before, heq] at hbefore
  exact String.lt_irrefl _ hbefore

theorem nodup_bindings (table : SymbolTable) : table.bindings.Nodup := by
  apply (List.pairwise_map.mp table.nodup_names).imp
  intro first second hname heq
  exact hname (congrArg Prod.fst heq)

theorem get?_eq_some_iff_mem (table : SymbolTable) {name : String} {value : Value} :
    table.get? name = some value ↔ (name, value) ∈ table.bindings :=
  find?_eq_some_iff_mem table.nodup_names

/-- A table is determined by the values that it finds. -/
theorem ext_get? (h : ∀ name, a.get? name = b.get? name) : a = b := by
  have hmem : ∀ binding, binding ∈ a.bindings ↔ binding ∈ b.bindings := by
    rintro ⟨name, value⟩
    rw [← get?_eq_some_iff_mem, ← get?_eq_some_iff_mem, h]
  have hperm : a.bindings.Perm b.bindings :=
    (List.perm_ext_iff_of_nodup a.nodup_bindings b.nodup_bindings).mpr hmem
  have hbindings : a.bindings = b.bindings := by
    apply hperm.eq_of_pairwise _ a.sorted b.sorted
    intro first second _ _ hbefore hafter
    exact absurd hafter (String.lt_asymm hbefore)
  cases a
  cases b
  cases hbindings
  rfl

end Tables

theorem last?_perm {bindings other : List (String × Value)} (hperm : bindings.Perm other)
    (hnames : (bindings.map (·.1)).Nodup) (name : String) :
    last? bindings name = last? other name := by
  have hother : (other.map (·.1)).Nodup := (hperm.map _).nodup_iff.mp hnames
  apply Option.ext
  intro value
  rw [last?_eq_some_iff_mem hnames, last?_eq_some_iff_mem hother]
  exact hperm.mem_iff

/-- Bindings with distinct names make the same table in every order. -/
theorem ofList_perm {bindings other : List (String × Value)} (hperm : bindings.Perm other)
    (hnames : (bindings.map (·.1)).Nodup) : ofList bindings = ofList other := by
  apply ext_get?
  intro name
  rw [get?_ofList, get?_ofList, last?_perm hperm hnames]

end FieldPredicate.SymbolTable
