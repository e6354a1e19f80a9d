import FieldPredicate.Value.Identity
import FieldPredicate.Value.Render
import Mathlib.Logic.Function.Basic

/-!
# Values with the same contents that share alike

A value is determined by its contents and the identities of its payloads in their order, and
diagnostics show the contents only. If two lists hold one identity at the same positions, one of
them is the other with other identities, and then the same is true of values with these lists.
-/

namespace FieldPredicate

namespace Value

/-! ## What renaming keeps and changes -/

section Rename

variable (r : Identity → Identity)

mutual

@[simp] theorem identities_rename :
    ∀ value : Value, (value.rename r).identities = value.identities.map r
  | .slice id items => congrArg (r id :: ·) (itemIdentities_rename items)
  | .map id entries => congrArg (r id :: ·) (entryIdentities_rename entries)
  | .pointer id target => congrArg (r id :: ·) (identities_rename target)
  | .struct id _ fields => congrArg (r id :: ·) (fieldIdentities_rename fields)
  | .nil | .bool _ | .int _ | .uint _ | .float32 _ | .float64 _ | .string _ | .absent _ => rfl

@[simp] theorem itemIdentities_rename :
    ∀ items, itemIdentities (renameItems r items) = (itemIdentities items).map r
  | [] => rfl
  | value :: rest => by
      rw [renameItems, itemIdentities, itemIdentities, identities_rename value,
        itemIdentities_rename rest, List.map_append]

@[simp] theorem entryIdentities_rename :
    ∀ entries, entryIdentities (renameEntries r entries) = (entryIdentities entries).map r
  | [] => rfl
  | (key, value) :: rest => by
      rw [renameEntries, entryIdentities, entryIdentities, identities_rename key,
        identities_rename value, entryIdentities_rename rest, List.map_append, List.map_append]

@[simp] theorem fieldIdentities_rename :
    ∀ fields, fieldIdentities (renameFields r fields) = (fieldIdentities fields).map r
  | [] => rfl
  | (_, value) :: rest => by
      rw [renameFields, fieldIdentities, fieldIdentities, identities_rename value,
        fieldIdentities_rename rest, List.map_append]

end

mutual

/-- Diagnostics do not show identities. -/
@[simp] theorem render_rename : ∀ value : Value, (value.rename r).render = value.render
  | .slice _ items => by rw [rename, render, render, renderItems_rename items]
  | .map _ entries => by rw [rename, render, render, renderEntries_rename entries]
  | .pointer _ target => by rw [rename, render, render, render_rename target]
  | .struct _ _ fields => by rw [rename, render, render, renderFields_rename fields]
  | .nil | .bool _ | .int _ | .uint _ | .float32 _ | .float64 _ | .string _ | .absent _ => rfl

@[simp] theorem renderItems_rename : ∀ items, renderItems (renameItems r items) = renderItems items
  | [] => rfl
  | value :: rest => by
      rw [renameItems, renderItems, renderItems, render_rename value, renderItems_rename rest]

@[simp] theorem renderEntries_rename :
    ∀ entries, renderEntries (renameEntries r entries) = renderEntries entries
  | [] => rfl
  | (key, value) :: rest => by
      rw [renameEntries, renderEntries, renderEntries, render_rename key, render_rename value,
        renderEntries_rename rest]

@[simp] theorem renderFields_rename :
    ∀ fields, renderFields (renameFields r fields) = renderFields fields
  | [] => rfl
  | (_, value) :: rest => by
      rw [renameFields, renderFields, renderFields, render_rename value, renderFields_rename rest]

end

end Rename

/-! ## Contents and identities determine a value -/

section Contents

variable {r s : Identity → Identity}

theorem length_identities_of_rename {first second : Value}
    (h : first.rename s = second.rename s) :
    first.identities.length = second.identities.length := by
  have hids := congrArg (·.identities.length) h
  simpa only [identities_rename, List.length_map] using hids

/-- Where identities of two values with the same contents begin two lists, they end together. -/
theorem split_identities {first second : Value} (h : first.rename s = second.rename s)
    {before after : List Identity}
    (hids : second.identities ++ after = (first.identities ++ before).map r) :
    second.identities = first.identities.map r ∧ after = before.map r := by
  rw [List.map_append] at hids
  apply List.append_inj hids
  rw [List.length_map, length_identities_of_rename h]

theorem eq_of_rename_plain {first second : Value} (hplain : first.identity? = none)
    (h : first.rename s = second.rename s) : second = first := by
  apply (rename_eq_iff hplain).mp
  exact h.symm.trans (rename_of_identity? s hplain)

mutual

/-- A value with the same contents is this value with the identities of the other one. -/
theorem eq_rename : ∀ {first second : Value}, first.rename s = second.rename s →
    second.identities = first.identities.map r → second = first.rename r
  | .slice id items, second, h, hids => by
      cases second with
      | slice id' items' =>
          rw [rename, rename, slice.injEq] at h
          rw [identities, identities, List.map_cons, List.cons.injEq] at hids
          rw [rename, hids.1, eq_renameItems h.2 hids.2]
      | _ => cases h
  | .map id entries, second, h, hids => by
      cases second with
      | map id' entries' =>
          rw [rename, rename, map.injEq] at h
          rw [identities, identities, List.map_cons, List.cons.injEq] at hids
          rw [rename, hids.1, eq_renameEntries h.2 hids.2]
      | _ => cases h
  | .pointer id target, second, h, hids => by
      cases second with
      | pointer id' target' =>
          rw [rename, rename, pointer.injEq] at h
          rw [identities, identities, List.map_cons, List.cons.injEq] at hids
          rw [rename, hids.1, eq_rename h.2 hids.2]
      | _ => cases h
  | .struct id name fields, second, h, hids => by
      cases second with
      | struct id' name' fields' =>
          rw [rename, rename, struct.injEq] at h
          rw [identities, identities, List.map_cons, List.cons.injEq] at hids
          rw [rename, hids.1, h.2.1, eq_renameFields h.2.2 hids.2]
      | _ => cases h
  | .nil, _, h, _ | .bool _, _, h, _ | .int _, _, h, _ | .uint _, _, h, _ | .float32 _, _, h, _
  | .float64 _, _, h, _ | .string _, _, h, _ | .absent _, _, h, _ => eq_of_rename_plain rfl h

theorem eq_renameItems : ∀ {first second : List Value}, renameItems s first = renameItems s second →
    itemIdentities second = (itemIdentities first).map r → second = renameItems r first
  | [], second, h, _ => by
      cases second with
      | nil => rfl
      | cons => cases h
  | value :: rest, second, h, hids => by
      cases second with
      | nil => cases h
      | cons value' rest' =>
          rw [renameItems, renameItems, List.cons.injEq] at h
          obtain ⟨hvalue, hrest⟩ := split_identities h.1 hids
          rw [renameItems, eq_rename h.1 hvalue, eq_renameItems h.2 hrest]

theorem eq_renameEntries : ∀ {first second : List (Value × Value)},
    renameEntries s first = renameEntries s second →
    entryIdentities second = (entryIdentities first).map r → second = renameEntries r first
  | [], second, h, _ => by
      cases second with
      | nil => rfl
      | cons => cases h
  | (key, value) :: rest, second, h, hids => by
      cases second with
      | nil => cases h
      | cons entry' rest' =>
          obtain ⟨key', value'⟩ := entry'
          rw [renameEntries, renameEntries, List.cons.injEq, Prod.mk.injEq] at h
          obtain ⟨hkey, hids⟩ := split_identities h.1.1 hids
          obtain ⟨hvalue, hrest⟩ := split_identities h.1.2 hids
          rw [renameEntries, eq_rename h.1.1 hkey, eq_rename h.1.2 hvalue,
            eq_renameEntries h.2 hrest]

theorem eq_renameFields : ∀ {first second : List (String × Value)},
    renameFields s first = renameFields s second →
    fieldIdentities second = (fieldIdentities first).map r → second = renameFields r first
  | [], second, h, _ => by
      cases second with
      | nil => rfl
      | cons => cases h
  | (name, value) :: rest, second, h, hids => by
      cases second with
      | nil => cases h
      | cons field' rest' =>
          obtain ⟨name', value'⟩ := field'
          rw [renameFields, renameFields, List.cons.injEq, Prod.mk.injEq] at h
          obtain ⟨hvalue, hrest⟩ := split_identities h.1.2 hids
          rw [renameFields, h.1.1, eq_rename h.1.2 hvalue, eq_renameFields h.2 hrest]

end

end Contents

end Value

/-! ## Sharing in the same pattern -/

/-- Two positions hold one identity in the first list exactly if they do in the second one. As
positions behind the end hold none, the lists have one length. -/
def ShareAlike (first second : List Identity) : Prop :=
  ∀ i j : Nat, first[i]? = first[j]? ↔ second[i]? = second[j]?

/-- The identity that stands in the second list where the given one stands in the first list. All
other identities are kept apart from these by the bound. -/
def matching (first second : List Identity) (bound : Nat) (id : Identity) : Identity :=
  (second[first.idxOf id]?).getD ⟨bound + id.number⟩

theorem exists_bound (ids : List Identity) : ∃ bound, ∀ id ∈ ids, id.number < bound := by
  induction ids with
  | nil => exact ⟨0, List.forall_mem_nil _⟩
  | cons id rest ih =>
      obtain ⟨bound, hrest⟩ := ih
      refine ⟨max bound (id.number + 1), List.forall_mem_cons.mpr ⟨by omega, ?_⟩⟩
      intro other hmem
      have hlt := hrest other hmem
      omega

namespace ShareAlike

variable {first second : List Identity} {bound : Nat}

theorem getElem?_eq_none_iff (h : ShareAlike first second) (i : Nat) :
    first[i]? = none ↔ second[i]? = none := by
  have hbeyond := h i (max first.length second.length)
  rwa [List.getElem?_eq_none (Nat.le_max_left _ _), List.getElem?_eq_none (Nat.le_max_right _ _)]
    at hbeyond

theorem getElem?_idxOf {id : Identity} {i : Nat} (hid : first[i]? = some id) :
    first[first.idxOf id]? = some id := by
  have hlt : first.idxOf id < first.length :=
    List.idxOf_lt_length_of_mem (List.mem_of_getElem? hid)
  rw [List.getElem?_eq_getElem hlt, List.getElem_idxOf]

theorem getElem?_matching (h : ShareAlike first second) {id : Identity} {i : Nat}
    (hid : first[i]? = some id) : second[i]? = some (matching first second bound id) := by
  have hindex : first[i]? = first[first.idxOf id]? := by
    rw [hid, getElem?_idxOf hid]
  rw [matching, ← (h i (first.idxOf id)).mp hindex]
  cases hother : second[i]? with
  | some other => rfl
  | none =>
      rw [(h.getElem?_eq_none_iff i).mpr hother] at hid
      cases hid

theorem eq_map_matching (h : ShareAlike first second) (bound : Nat) :
    second = first.map (matching first second bound) := by
  apply List.ext_getElem?
  intro i
  rw [List.getElem?_map]
  cases hid : first[i]? with
  | none => exact (h.getElem?_eq_none_iff i).mp hid
  | some id => exact h.getElem?_matching hid

theorem exists_matching_of_mem (h : ShareAlike first second) {id : Identity} (hid : id ∈ first) :
    ∃ i : Nat, first[i]? = some id ∧ second[i]? = some (matching first second bound id) := by
  obtain ⟨i, hi⟩ := List.mem_iff_getElem?.mp hid
  exact ⟨i, hi, h.getElem?_matching hi⟩

theorem matching_of_not_mem (h : ShareAlike first second) {id : Identity} (hid : id ∉ first) :
    matching first second bound id = ⟨bound + id.number⟩ := by
  have hfirst : first[first.idxOf id]? = none := by
    apply List.getElem?_eq_none
    exact Nat.le_of_not_lt fun hlt => hid (List.idxOf_lt_length_iff.mp hlt)
  rw [matching, (h.getElem?_eq_none_iff _).mp hfirst]
  rfl

theorem matching_ne (h : ShareAlike first second) (hbound : ∀ id ∈ second, id.number < bound)
    {a b : Identity} (ha : a ∈ first) (hb : b ∉ first) :
    matching first second bound a ≠ matching first second bound b := by
  intro hab
  obtain ⟨i, -, hi⟩ := h.exists_matching_of_mem ha
  have hlt := hbound _ (List.mem_of_getElem? hi)
  rw [hab, h.matching_of_not_mem hb] at hlt
  exact absurd hlt (by simp)

theorem matching_injective (h : ShareAlike first second)
    (hbound : ∀ id ∈ second, id.number < bound) :
    Function.Injective (matching first second bound) := by
  intro a b hab
  by_cases ha : a ∈ first
  · by_cases hb : b ∈ first
    · obtain ⟨i, hi, hi'⟩ := h.exists_matching_of_mem ha
      obtain ⟨j, hj, hj'⟩ := h.exists_matching_of_mem hb
      have hij : second[i]? = second[j]? := by
        rw [hi', hj', hab]
      have heq := (h i j).mpr hij
      rw [hi, hj] at heq
      exact Option.some.inj heq
    · exact absurd hab (h.matching_ne hbound ha hb)
  · by_cases hb : b ∈ first
    · exact absurd hab.symm (h.matching_ne hbound hb ha)
    · rw [h.matching_of_not_mem ha, h.matching_of_not_mem hb, Identity.mk.injEq] at hab
      cases a
      cases b
      exact congrArg Identity.mk (Nat.add_left_cancel hab)

end ShareAlike

/-- Lists share alike exactly if one of them is the other one with other identities. -/
theorem shareAlike_iff_exists_injective {first second : List Identity} :
    ShareAlike first second ↔ ∃ r, Function.Injective r ∧ second = first.map r := by
  constructor
  · intro h
    obtain ⟨bound, hbound⟩ := exists_bound second
    exact ⟨matching first second bound, h.matching_injective hbound, h.eq_map_matching bound⟩
  · rintro ⟨r, hr, rfl⟩ i j
    rw [List.getElem?_map, List.getElem?_map, (Option.map_injective hr).eq_iff]

end FieldPredicate
