import FieldPredicate.Check
import FieldPredicate.Proofs.Value.SharedContents

/-!
# Data of the host as what a program builds

The conversion of host data is a run of a program that builds values: what lies within a payload is
built before it, and the numbers from a given one on are identities that nothing else has. So the
table of a structure is one that a program has made, and equal values in its checks have the same
contents.

The main results are `exists_reached_table_ofHost` and, of what checks find equal,
`alikeInContents_ofHost`.
-/

namespace FieldPredicate

namespace HostValue

mutual

/-- The values of predicates that the data brings with it. -/
def given : HostValue → List Value
  | .sequence items => givenItems items
  | .table entries => givenEntries entries
  | .present content | .boxed content => content.given
  | .record _ fields => givenFields fields
  | .dynamic value => [value]
  | _ => []

def givenItems : List HostValue → List Value
  | [] => []
  | item :: rest => item.given ++ givenItems rest

def givenEntries : List (HostValue × HostValue) → List Value
  | [] => []
  | (key, item) :: rest => key.given ++ (item.given ++ givenEntries rest)

def givenFields : List (String × HostValue) → List Value
  | [] => []
  | (_, item) :: rest => item.given ++ givenFields rest

end

end HostValue

namespace Store

/-! ## Runs that build values -/

/-- No payload that is held or bound has the identity. -/
def Free (store : Store) (id : Identity) : Prop :=
  ∀ value, store.Live value → value.identity? ≠ some id

/-- A run that only adds held values, with identities from a range of numbers. -/
structure Grows (store : Store) (first last : Nat) (later : Store) : Prop where
  run : Relation.ReflTransGen Step store later
  table_eq : later.table = store.table
  held_subset : store.held ⊆ later.held
  free : ∀ id, id.number < first ∨ last ≤ id.number → store.Free id → later.Free id

namespace Grows

variable {store middle later : Store} {first number last : Nat}

theorem refl (store : Store) (number : Nat) : Grows store number number store :=
  ⟨.refl, rfl, List.Subset.refl _, fun _ _ h => h⟩

theorem trans (h : Grows store first number middle) (h' : Grows middle number last later)
    (hle : first ≤ number) (hle' : number ≤ last) : Grows store first last later where
  run := h.run.trans h'.run
  table_eq := h'.table_eq.trans h.table_eq
  held_subset := List.Subset.trans h.held_subset h'.held_subset
  free id hid hfree := h'.free id (by omega) (h.free id (by omega) hfree)

/-- A value is built, with the next number for its payload if it has one. -/
theorem build {value : Value} (h : Grows store first last later)
    (hparts : ∀ part, value.Holds part → part ∈ later.held)
    (hnew : ∀ id, value.identity? = some id → later.Free id)
    (hrange : ∀ id, value.identity? = some id → number ≤ id.number ∧ id.number < last)
    (hle : number ≤ first) : Grows store number last (later.hold value) where
  run := h.run.tail (.build hparts fun id other hid hother => hnew id hid other hother)
  table_eq := h.table_eq
  held_subset := List.subset_cons_of_subset _ h.held_subset
  free id hid hfree := by
    intro other hother
    have hlive : ∀ part, value.Holds part → later.Live part := by
      intro part hpart
      exact live_of_held (hparts part hpart)
    rcases eq_or_live_of_hold hlive hother with rfl | hother
    · intro hsame
      have hbounds := hrange id hsame
      omega
    · exact h.free id (by omega) hfree other hother

end Grows

/-- Where the given values are held and all numbers from the next one on are free, a program can
make the values, with the numbers that are used for them. -/
def Makes {α : Type} (given : List Value) (contents : α → List Value) (make : Nat → α × Nat) :
    Prop :=
  ∀ store next, given ⊆ store.held → (∀ id : Identity, next ≤ id.number → store.Free id) →
    next ≤ (make next).2 ∧
      ∃ later, Grows store next (make next).2 later ∧ contents (make next).1 ⊆ later.held

section Parts

variable {id : Identity} {part : Value}

theorem mem_of_holds_slice {items : List Value} (h : (Value.slice id items).Holds part) :
    part ∈ items := by
  cases h with
  | item hmem => exact hmem

theorem mem_of_holds_map {entries : List (Value × Value)}
    (h : (Value.map id entries).Holds part) :
    part ∈ entries.flatMap fun entry => [entry.1, entry.2] := by
  rw [List.mem_flatMap]
  cases h with
  | key hmem => exact ⟨_, hmem, List.mem_cons_self⟩
  | entry hmem => exact ⟨_, hmem, List.mem_cons_of_mem _ List.mem_cons_self⟩

theorem mem_of_holds_pointer {target : Value} (h : (Value.pointer id target).Holds part) :
    part ∈ [target] := by
  cases h
  exact List.mem_cons_self

theorem mem_of_holds_struct {name : String} {fields : List (String × Value)}
    (h : (Value.struct id name fields).Holds part) : part ∈ fields.map (·.2) := by
  cases h with
  | field hmem => exact List.mem_map_of_mem hmem

end Parts

namespace Makes

variable {α β γ : Type} {given givenFirst givenSecond : List Value}
  {contents : α → List Value} {contentsFirst : β → List Value} {contentsSecond : γ → List Value}
  {makeFirst : Nat → β × Nat} {makeSecond : Nat → γ × Nat}

/-- What is given is held already. -/
theorem held {x : α} (h : contents x ⊆ given) : Makes given contents fun next => (x, next) := by
  intro store next hgiven _
  exact ⟨Nat.le_refl next, store, .refl store next, List.Subset.trans h hgiven⟩

theorem plain {value : Value} (h : value.identity? = none) :
    Makes given (fun value => [value]) fun next => (value, next) := by
  intro store next _ _
  refine ⟨Nat.le_refl next, store.hold value, ?_, ?_⟩
  · apply (Grows.refl store next).build
    · intro part hpart
      exact absurd hpart (Value.not_holds_of_identity? h)
    · rw [h]
      rintro id ⟨⟩
    · rw [h]
      rintro id ⟨⟩
    · exact Nat.le_refl next
  · exact List.cons_subset.mpr ⟨List.mem_cons_self, List.nil_subset _⟩

theorem seq (hfirst : Makes givenFirst contentsFirst makeFirst)
    (hsecond : Makes givenSecond contentsSecond makeSecond) (join : β → γ → α)
    (hjoin : ∀ x y, contents (join x y) = contentsFirst x ++ contentsSecond y) :
    Makes (givenFirst ++ givenSecond) contents fun next =>
      let (x, after) := makeFirst next
      let (y, after) := makeSecond after
      (join x y, after) := by
  intro store next hgiven hfree
  obtain ⟨hgivenFirst, hgivenSecond⟩ := List.append_subset.mp hgiven
  obtain ⟨hle, middle, hgrows, hheld⟩ := hfirst store next hgivenFirst hfree
  have hfree' : ∀ id : Identity, (makeFirst next).2 ≤ id.number → middle.Free id := by
    intro id hid
    exact hgrows.free id (.inr hid) (hfree id (Nat.le_trans hle hid))
  obtain ⟨hle', later, hgrows', hheld'⟩ :=
    hsecond middle (makeFirst next).2 (List.Subset.trans hgivenSecond hgrows.held_subset) hfree'
  refine ⟨Nat.le_trans hle hle', later, hgrows.trans hgrows' hle hle', ?_⟩
  rw [hjoin]
  exact List.append_subset.mpr ⟨List.Subset.trans hheld hgrows'.held_subset, hheld'⟩

/-- The payload has the next number, and what lies within it the numbers behind that. -/
theorem fresh (h : Makes given contentsFirst makeFirst) (build : Identity → β → Value)
    (hid : ∀ id x, (build id x).identity? = some id)
    (hparts : ∀ id x part, (build id x).Holds part → part ∈ contentsFirst x) :
    Makes given (fun value => [value]) fun next =>
      let (x, after) := makeFirst (next + 1)
      (build ⟨next⟩ x, after) := by
  intro store next hgiven hfree
  obtain ⟨hle, later, hgrows, hheld⟩ := h store (next + 1) hgiven
    fun id hid => hfree id (Nat.le_of_succ_le hid)
  refine ⟨Nat.le_of_succ_le hle, later.hold (build ⟨next⟩ (makeFirst (next + 1)).1), ?_, ?_⟩
  · apply hgrows.build
    · intro part hpart
      exact hheld (hparts _ _ part hpart)
    · intro id hsame
      rw [hid] at hsame
      cases hsame
      exact hgrows.free _ (.inl (Nat.lt_succ_self next)) (hfree _ (Nat.le_refl next))
    · intro id hsame
      rw [hid] at hsame
      cases hsame
      exact ⟨Nat.le_refl next, hle⟩
    · exact Nat.le_succ next
  · exact List.cons_subset.mpr ⟨List.mem_cons_self, List.nil_subset _⟩

end Makes

end Store

/-! ## The conversion of data -/

namespace HostValue

open Store

-- By the recursion of the conversion, as for the numbers themselves.
mutual

theorem toValue_makes : ∀ data : HostValue,
    Makes data.given (fun value => [value]) fun next => data.toValue next
  | .sequence items =>
      (toItems_makes items).fresh Value.slice (fun _ _ => rfl) fun _ _ _ => mem_of_holds_slice
  | .table entries =>
      (toEntries_makes entries).fresh Value.map (fun _ _ => rfl) fun _ _ _ => mem_of_holds_map
  | .present content | .boxed content =>
      (toValue_makes content).fresh Value.pointer (fun _ _ => rfl) fun _ _ _ => mem_of_holds_pointer
  | .record name fields =>
      (toFields_makes fields).fresh (fun id values => Value.struct id name values)
        (fun _ _ => rfl) fun _ _ _ => mem_of_holds_struct
  | .dynamic _ => .held (List.Subset.refl _)
  | .bool _ | .int _ | .uint _ | .float32 _ | .float64 _ | .string _ | .missing => .plain rfl

theorem toItems_makes : ∀ items : List HostValue,
    Makes (givenItems items) id fun next => toItems next items
  | [] => .held (List.nil_subset _)
  | item :: rest =>
      (toValue_makes item).seq (toItems_makes rest) (fun value values => value :: values)
        fun _ _ => rfl

theorem toEntries_makes : ∀ entries : List (HostValue × HostValue),
    Makes (givenEntries entries) (fun entries => entries.flatMap fun entry => [entry.1, entry.2])
      fun next => toEntries next entries
  | [] => .held (List.nil_subset _)
  | (key, item) :: rest =>
      have hrest : Makes (item.given ++ givenEntries rest)
          (fun pair : Value × List (Value × Value) =>
            pair.1 :: pair.2.flatMap fun entry => [entry.1, entry.2]) _ :=
        (toValue_makes item).seq (toEntries_makes rest) Prod.mk fun _ _ => rfl
      (toValue_makes key).seq hrest (fun key pair => (key, pair.1) :: pair.2) fun _ _ => rfl

theorem toFields_makes : ∀ fields : List (String × HostValue),
    Makes (givenFields fields) (fun fields => fields.map (·.2)) fun next => toFields next fields
  | [] => .held (List.nil_subset _)
  | (name, item) :: rest =>
      (toValue_makes item).seq (toFields_makes rest)
        (fun value values => (name, value) :: values) fun _ _ => rfl

end

end HostValue

/-! ## The table of a structure -/

section Structures

open Store

variable {store : Store} {next : Nat}

theorem exists_grows_toFields {fields : List HostField}
    (hgiven : ∀ field ∈ fields, field.data.given ⊆ store.held)
    (hfree : ∀ id : Identity, next ≤ id.number → store.Free id) :
    ∃ last later, next ≤ last ∧ Grows store next last later ∧
      ∀ field ∈ HostField.toFields next fields, field.value ∈ later.held := by
  induction fields generalizing store next with
  | nil => exact ⟨next, store, Nat.le_refl next, .refl store next, nofun⟩
  | cons field rest ih =>
      obtain ⟨hfield, hrest⟩ := List.forall_mem_cons.mp hgiven
      obtain ⟨hle, middle, hgrows, hheld⟩ := field.data.toValue_makes store next hfield hfree
      have hgiven' : ∀ field ∈ rest, field.data.given ⊆ middle.held := by
        intro field hmem
        exact List.Subset.trans (hrest field hmem) hgrows.held_subset
      have hfree' : ∀ id : Identity, (field.data.toValue next).2 ≤ id.number →
          middle.Free id := by
        intro id hid
        exact hgrows.free id (.inr hid) (hfree id (Nat.le_trans hle hid))
      obtain ⟨last, later, hle', hgrows', hheld'⟩ := ih hgiven' hfree'
      refine ⟨last, later, Nat.le_trans hle hle', hgrows.trans hgrows' hle hle', ?_⟩
      refine List.forall_mem_cons.mpr ⟨?_, hheld'⟩
      exact hgrows'.held_subset (hheld List.mem_cons_self)

theorem run_extend {bindings : List (String × Value)}
    (h : ∀ binding ∈ bindings, binding.2 ∈ store.held) :
    Relation.ReflTransGen Step store { store with table := store.table.extend bindings } := by
  induction bindings generalizing store with
  | nil => exact .refl
  | cons binding rest ih =>
      obtain ⟨hbinding, hrest⟩ := List.forall_mem_cons.mp h
      have hbind : Step store (store.bind binding.1 binding.2) := .bind binding.1 hbinding
      exact .head hbind (@ih (store.bind binding.1 binding.2) hrest)

/-- The table of a structure of the host is one that a program has made, which begins with the
values that the data brings with it, and has free numbers for the payloads. -/
theorem exists_reached_table_ofHost {fields : List HostField} (typeName : String)
    (hstore : store.Reached) (hempty : store.table = .empty)
    (hgiven : ∀ field ∈ fields, field.data.given ⊆ store.held)
    (hfree : ∀ id : Identity, next ≤ id.number → store.Free id) :
    ∃ later : Store, later.Reached ∧ later.table = (Record.ofHost next typeName fields).table := by
  obtain ⟨last, later, -, hgrows, hheld⟩ := exists_grows_toFields hgiven hfree
  have hbindings : ∀ binding ∈ (HostField.toFields next fields).map fun field =>
      (field.name, field.value), binding.2 ∈ later.held := by
    intro binding hmem
    obtain ⟨field, hfield, rfl⟩ := List.mem_map.mp hmem
    exact hheld field hfield
  refine ⟨_, (hstore.trans hgrows.run).trans (run_extend hbindings), ?_⟩
  rw [hgrows.table_eq, hempty]
  rfl

/-- Where a check of a structure of the host finds two values equal, they have the same contents,
unless they hold a float that is not a number. -/
theorem alikeInContents_ofHost {fields : List HostField} {typeName : String}
    (hstore : store.Reached) (hempty : store.table = .empty)
    (hgiven : ∀ field ∈ fields, field.data.given ⊆ store.held)
    (hfree : ∀ id : Identity, next ≤ id.number → store.Free id)
    {left right : Expr} {a b : Value}
    (ha : eval (Record.ofHost next typeName fields).table left = .ok a)
    (hb : eval (Record.ofHost next typeName fields).table right = .ok b)
    (hnumbers : a.FreeOfNaN)
    (hequal : eval (Record.ofHost next typeName fields).table (.binary left .equal right) =
      .ok (.bool true)) : AlikeInContents a b = true := by
  obtain ⟨later, hreached, htable⟩ :=
    exists_reached_table_ofHost typeName hstore hempty hgiven hfree
  rw [eval_binary, ha, hb] at hequal
  rw [← htable] at ha hb
  exact alikeInContents_of_equal hreached (has_of_eval ha) (has_of_eval hb) hnumbers hequal

end Structures

end FieldPredicate
