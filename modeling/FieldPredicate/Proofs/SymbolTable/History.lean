import FieldPredicate.Proofs.SymbolTable.BindingOrder
import FieldPredicate.SymbolTable.History
import Mathlib.Data.List.Dedup

/-!
# A table answers by its history

Whatever is done to a table, it is the table of all bindings that were made since its creation: one
operation adds its bindings at the end, or starts anew. So a name is found with its most recent
value, and the other questions to a table agree with what it finds.
-/

namespace FieldPredicate.SymbolTable

/-! ## One operation and a run of them -/

theorem ofList_append (made bindings : List (String × Value)) :
    ofList (made ++ bindings) = (ofList made).extend bindings :=
  List.foldl_append

theorem apply_ofList (made : List (String × Value)) (operation : Operation) :
    operation.apply (ofList made) = ofList (operation.record made) := by
  cases operation with
  | insert name value | bind name value => exact (ofList_append made [(name, value)]).symm
  | extend bindings => exact (ofList_append made bindings).symm
  | collect bindings => rfl

theorem foldl_apply_ofList (operations : List Operation) (made : List (String × Value)) :
    operations.foldl Operation.apply (ofList made) =
      ofList (operations.foldl Operation.record made) := by
  induction operations generalizing made with
  | nil => rfl
  | cons operation rest ih => rw [List.foldl_cons, List.foldl_cons, apply_ofList, ih]

theorem run_eq_ofList (operations : List Operation) :
    run operations = ofList (bindingsMade operations) :=
  foldl_apply_ofList operations []

/-! ## What a table finds -/

section Found

variable {made : List (String × Value)} {name : String} {value : Value}

theorem last?_eq_some_iff : last? made name = some value ↔ MostRecent made name value := by
  rw [last?, Option.map_eq_some_iff]
  constructor
  · rintro ⟨binding, hfind, rfl⟩
    obtain ⟨hname, later, earlier, hmade, hlater⟩ := List.find?_eq_some_iff_append.mp hfind
    have hname : binding.1 = name := by simpa using hname
    refine ⟨earlier.reverse, later.reverse, ?_, ?_⟩
    · rw [← made.reverse_reverse, hmade, ← hname]
      simp
    · intro other hmem
      simpa using hlater other (List.mem_reverse.mp hmem)
  · rintro ⟨earlier, later, rfl, hlater⟩
    refine ⟨(name, value), List.find?_eq_some_iff_append.mpr ⟨by simp, later.reverse,
      earlier.reverse, by simp, ?_⟩, rfl⟩
    intro other hmem
    simpa using hlater other (List.mem_reverse.mp hmem)

end Found

/-! ## What a table gives back, and its other answers -/

section Answers

variable (table : SymbolTable)

/-- Bindings behind a greater name are not searched, and the name is not among them. -/
theorem place_fst {name : String} {value : Value} {bindings : List (String × Value)}
    (h : bindings.Pairwise Binding.Before) :
    (place name value bindings).1 = (bindings.find? (·.1 = name)).map (·.2) := by
  induction bindings with
  | nil => rfl
  | cons head rest ih =>
      obtain ⟨other, bound⟩ := head
      obtain ⟨hhead, hrest⟩ := List.pairwise_cons.mp h
      rw [place]
      split
      · rename_i hlt
        have hnone : ((other, bound) :: rest).find? (·.1 = name) = none := by
          rw [List.find?_eq_none]
          intro binding hmem heq
          have hname : binding.1 = name := by simpa using heq
          rcases List.mem_cons.mp hmem with rfl | hmem
          · exact String.lt_irrefl name (hname ▸ hlt)
          · have hbefore : name < binding.1 := String.lt_trans hlt (hhead binding hmem)
            exact String.lt_irrefl name (hname ▸ hbefore)
        rw [hnone]
        rfl
      · split
        · rename_i heq
          subst heq
          simp
        · rename_i hne
          have hother : ¬ other = name := fun heq => hne heq.symm
          simpa [hother] using ih hrest

@[simp] theorem insert_fst (name : String) (value : Value) :
    (table.insert name value).1 = table.get? name :=
  place_fst table.sorted

@[simp] theorem contains_eq_isSome (name : String) :
    table.contains name = (table.get? name).isSome := by
  rw [contains, get?, Option.isSome_map, List.isSome_find?]

theorem isEmpty_iff_size : table.isEmpty = true ↔ table.size = 0 := by
  rw [isEmpty, size, List.isEmpty_iff, List.length_eq_zero_iff]

end Answers

/-- Names that a table finds are counted once each, however often they were bound. -/
theorem size_eq_of_get?_eq {table : SymbolTable} {made : List (String × Value)}
    (h : ∀ name, table.get? name = last? made name) :
    table.size = (made.map (·.1)).dedup.length := by
  have hmem : ∀ name, name ∈ table.bindings.map (·.1) ↔ name ∈ (made.map (·.1)).dedup := by
    intro name
    rw [List.mem_dedup, ← not_iff_not, ← find?_eq_none_iff, ← get?, h, last?_eq_none_iff]
  have hperm : (table.bindings.map (·.1)).Perm (made.map (·.1)).dedup :=
    (List.perm_ext_iff_of_nodup table.nodup_names (List.nodup_dedup _)).mpr hmem
  rw [size, ← hperm.length_eq, List.length_map]

/-! ## All answers together -/

/-- What a table answers, where `made` are the bindings made since its creation. -/
structure AnswersBy (made : List (String × Value)) (table : SymbolTable) : Prop where
  found : ∀ name value, table.get? name = some value ↔ MostRecent made name value
  unbound : ∀ name, table.get? name = none ↔ name ∉ made.map (·.1)
  givesBack : ∀ name value, (table.insert name value).1 = table.get? name
  inserts : ∀ name value, (table.insert name value).2.get? name = some value
  keeps : ∀ name value other, other ≠ name →
    (table.insert name value).2.get? other = table.get? other
  contains : ∀ name, table.contains name = (table.get? name).isSome
  size : table.size = (made.map (·.1)).dedup.length
  isEmpty : table.isEmpty = true ↔ table.size = 0
  listsOnce : (table.toList.map (·.1)).Nodup
  lists : ∀ name value, (name, value) ∈ table.toList ↔ table.get? name = some value

/-- After any operations a table finds the most recent value of each name that was bound since its
creation, with the identity of its payload, and no other name. It gives back what it found when a
name is bound anew, and its size and its list of bindings agree with what it finds. -/
theorem run_answers_by_bindings (operations : List Operation) :
    AnswersBy (bindingsMade operations) (run operations) := by
  have hget : ∀ name, (run operations).get? name = last? (bindingsMade operations) name := by
    intro name
    rw [run_eq_ofList, get?_ofList]
  refine ⟨?_, ?_, insert_fst _, get?_bind_self _, ?_, contains_eq_isSome _, ?_,
    isEmpty_iff_size _, nodup_names _, ?_⟩
  · intro name value
    rw [hget, last?_eq_some_iff]
  · intro name
    rw [hget, last?_eq_none_iff]
  · intro name value other hne
    exact get?_bind_of_ne _ value hne
  · exact size_eq_of_get?_eq hget
  · intro name value
    exact (get?_eq_some_iff_mem _).symm

end FieldPredicate.SymbolTable
