import FieldPredicate.Proofs.Eval.EqualityLaws
import FieldPredicate.Proofs.Eval.Payloads
import FieldPredicate.Store
import FieldPredicate.Value.Contents

/-!
# Equal values have the same contents

Handles with one identity are handles to one payload: every step of a program keeps this, since only
building makes a payload and gives it an identity that nothing else has. So what is equal by its
identity is the same value, and has the same contents as itself, unless it holds a float that is not
a number. What has no payload is compared by its contents.
-/

namespace FieldPredicate

namespace Value

/-! ## Values and parts -/

section Reaches

variable {value part : Value}

theorem Reaches.cases_head {start : Value} (h : start.Reaches value) :
    value = start ∨ ∃ part, start.Holds part ∧ part.Reaches value := by
  induction h with
  | refl => exact .inl rfl
  | step _ hstep ih =>
      rcases ih with rfl | ⟨part, hpart, hreaches⟩
      · exact .inr ⟨_, hstep, .refl⟩
      · exact .inr ⟨part, hpart, hreaches.step hstep⟩

theorem Holds.reaches (h : value.Holds part) : value.Reaches part :=
  .step .refl h

theorem not_holds_of_identity? (h : value.identity? = none) : ¬ value.Holds part := by
  intro hpart
  cases hpart <;> cases h

theorem Follows.holds (h : value.Follows part) : value.Holds part := by
  cases h with
  | target => exact .target
  | field hmem => exact .field hmem
  | entry hmem => exact .entry hmem

theorem reaches_of_follows (h : Relation.ReflTransGen Follows value part) : value.Reaches part := by
  induction h with
  | refl => exact .refl
  | tail _ hstep ih => exact ih.step hstep.holds

end Reaches

/-! ## Floats that are not numbers -/

theorem unpacked_beq_self {x : Float.Model.UnpackedFloat} (h : x.isNaN = false) :
    x.beq x = true := by
  have hcompare : x.compare x = some .eq := by
    cases x with
    | notANumber => cases h
    | infinity sign => cases sign <;> rfl
    | zero sign => rfl
    | finite sign mantissa exponent _ =>
        have hsame : (compare exponent exponent).then (compare mantissa mantissa) = .eq := by
          simp only [Std.compare_self, Ordering.then_eq]
        cases sign with
        | positive => exact congrArg some hsame
        | negative => exact congrArg (some ∘ Ordering.swap) hsame
  exact beq_iff_eq.mpr hcompare

def isNaN : Value → Bool
  | .float32 x => x.isNaN
  | .float64 x => x.isNaN
  | _ => false

/-- Neither the value nor a part of it is a float that is not a number. -/
def FreeOfNaN (value : Value) : Prop :=
  ∀ part, value.Reaches part → part.isNaN = false

theorem FreeOfNaN.part {value part : Value} (h : value.FreeOfNaN) (hpart : value.Holds part) :
    part.FreeOfNaN := by
  intro other hother
  exact h other (hpart.reaches.trans hother)

mutual

theorem sameContents_self : ∀ value : Value, value.FreeOfNaN → value.sameContents value = true
  | .float32 x, h => by
      rw [sameContents]
      exact unpacked_beq_self (h _ .refl)
  | .float64 x, h => by
      rw [sameContents]
      exact unpacked_beq_self (h _ .refl)
  | .slice id items, h => by
      rw [sameContents]
      exact sameItems_self items fun item hmem => h.part (.item hmem)
  | .map id entries, h => by
      rw [sameContents]
      exact sameEntries_self entries fun entry hmem => ⟨h.part (.key hmem), h.part (.entry hmem)⟩
  | .pointer id target, h => by
      rw [sameContents]
      exact sameContents_self target (h.part .target)
  | .struct id name fields, h => by
      rw [sameContents, sameFields_self fields fun field hmem => h.part (.field hmem)]
      simp
  | .nil, _ | .bool _, _ | .int _, _ | .uint _, _ | .string _, _ | .absent _, _ => by
      simp [sameContents]

theorem sameItems_self : ∀ items : List Value, (∀ item ∈ items, item.FreeOfNaN) →
    sameItems items items = true
  | [], _ => by rw [sameItems]
  | value :: rest, h => by
      obtain ⟨hvalue, hrest⟩ := List.forall_mem_cons.mp h
      rw [sameItems, sameContents_self value hvalue, sameItems_self rest hrest]
      rfl

theorem sameEntries_self : ∀ entries : List (Value × Value),
    (∀ entry ∈ entries, entry.1.FreeOfNaN ∧ entry.2.FreeOfNaN) →
    sameEntries entries entries = true
  | [], _ => by rw [sameEntries]
  | (key, value) :: rest, h => by
      obtain ⟨⟨hkey, hvalue⟩, hrest⟩ := List.forall_mem_cons.mp h
      rw [sameEntries, sameContents_self key hkey, sameContents_self value hvalue,
        sameEntries_self rest hrest]
      rfl

theorem sameFields_self : ∀ fields : List (String × Value),
    (∀ field ∈ fields, field.2.FreeOfNaN) → sameFields fields fields = true
  | [], _ => by rw [sameFields]
  | (name, value) :: rest, h => by
      obtain ⟨hvalue, hrest⟩ := List.forall_mem_cons.mp h
      rw [sameFields, sameContents_self value hvalue, sameFields_self rest hrest]
      simp

end

end Value

/-! ## One identity, one payload -/

namespace Store

/-- Live values with one identity are one value. -/
def Coherent (store : Store) : Prop :=
  ∀ id a b, store.Live a → store.Live b → a.identity? = some id → b.identity? = some id → a = b

/-- What a program can compare: what has no payload, and what is live. -/
def Has (store : Store) (value : Value) : Prop :=
  value.identity? = none ∨ store.Live value

section Steps

variable {store next : Store} {value : Value}

theorem Coherent.of_live (h : store.Coherent)
    (hlive : ∀ value, next.Live value → store.Live value) : next.Coherent := by
  intro id a b ha hb
  exact h id a b (hlive a ha) (hlive b hb)

theorem Live.of_reaches {part : Value} (h : store.Live value) (hpart : value.Reaches part) :
    store.Live part := by
  obtain ⟨root, hroot, hreaches⟩ := h
  exact ⟨root, hroot, hreaches.trans hpart⟩

theorem live_of_held (h : value ∈ store.held) : store.Live value :=
  ⟨value, .inl h, .refl⟩

theorem live_of_bound {name : String} (h : store.table.get? name = some value) :
    store.Live value :=
  ⟨value, .inr ⟨name, h⟩, .refl⟩

theorem live_or_reaches_of_hold {other : Value} (h : (store.hold value).Live other) :
    store.Live other ∨ value.Reaches other := by
  obtain ⟨root, hheld | hbound, hreaches⟩ := h
  · rcases List.mem_cons.mp hheld with rfl | hheld
    · exact .inr hreaches
    · exact .inl ⟨root, .inl hheld, hreaches⟩
  · exact .inl ⟨root, .inr hbound, hreaches⟩

theorem has_of_eval {e : Expr} (h : eval store.table e = .ok value) : store.Has value := by
  apply (identity?_eval h).imp_right
  rintro ⟨name, -, source, hsource, hfollows⟩
  exact (live_of_bound hsource).of_reaches (Value.reaches_of_follows hfollows)

/-- Of a value whose parts were live, only itself is new. -/
theorem eq_or_live_of_hold {other : Value} (hparts : ∀ part, value.Holds part → store.Live part)
    (h : (store.hold value).Live other) : other = value ∨ store.Live other := by
  rcases live_or_reaches_of_hold h with hlive | hreaches
  · exact .inr hlive
  · apply hreaches.cases_head.imp_right
    rintro ⟨part, hpart, hreaches⟩
    exact (hparts part hpart).of_reaches hreaches

theorem Coherent.hold (h : store.Coherent)
    (hparts : ∀ part, value.Holds part → store.Live part)
    (hnew : ∀ id other, value.identity? = some id → store.Live other →
      other.identity? = some id → other = value) : (store.hold value).Coherent := by
  intro id a b ha hb hida hidb
  rcases eq_or_live_of_hold hparts ha with rfl | hlivea
  · rcases eq_or_live_of_hold hparts hb with rfl | hliveb
    · rfl
    · exact (hnew id b hida hliveb hidb).symm
  · rcases eq_or_live_of_hold hparts hb with rfl | hliveb
    · exact hnew id a hidb hlivea hida
    · exact h id a b hlivea hliveb hida hidb

theorem Coherent.hold_live (h : store.Coherent) (hvalue : store.Live value) :
    (store.hold value).Coherent := by
  apply h.of_live
  intro other hother
  rcases live_or_reaches_of_hold hother with hlive | hreaches
  · exact hlive
  · exact hvalue.of_reaches hreaches

theorem live_of_bind {name : String} {other : Value} (hvalue : value ∈ store.held)
    (h : (store.bind name value).Live other) : store.Live other := by
  obtain ⟨root, hheld | ⟨bound, hbound⟩, hreaches⟩ := h
  · exact ⟨root, .inl hheld, hreaches⟩
  · by_cases hname : bound = name
    · subst hname
      rw [Store.bind, SymbolTable.get?_bind_self] at hbound
      cases hbound
      exact (live_of_held hvalue).of_reaches hreaches
    · rw [Store.bind, SymbolTable.get?_bind_of_ne _ _ hname] at hbound
      exact ⟨root, .inr ⟨bound, hbound⟩, hreaches⟩

theorem Step.coherent (hstep : store.Step next) (h : store.Coherent) : next.Coherent := by
  cases hstep with
  | build hparts hnew =>
      apply h.hold
      · intro part hpart
        exact live_of_held (hparts part hpart)
      · intro id other hid hother hsame
        exact absurd hsame (hnew id other hid hother)
  | take hbound => exact h.hold_live (live_of_bound hbound)
  | evaluate heval =>
      rcases has_of_eval heval with hplain | hlive
      · apply h.hold
        · intro part hpart
          exact absurd hpart (Value.not_holds_of_identity? hplain)
        · intro id other hid
          rw [hplain] at hid
          cases hid
      · exact h.hold_live hlive
  | bind name hheld =>
      apply h.of_live
      intro value hvalue
      exact live_of_bind hheld hvalue
  | keep hsubset =>
      apply h.of_live
      rintro value ⟨root, hheld | hbound, hreaches⟩
      · exact ⟨root, .inl (hsubset hheld), hreaches⟩
      · exact ⟨root, .inr hbound, hreaches⟩

theorem coherent_empty : empty.Coherent := by
  rintro id a b ⟨root, hheld | ⟨name, hbound⟩, -⟩
  · cases hheld
  · cases hbound

theorem Reached.coherent (h : store.Reached) : store.Coherent := by
  induction h with
  | refl => exact coherent_empty
  | tail _ hstep ih => exact hstep.coherent ih

end Steps

end Store

/-! ## The two equalities -/

/-- The operands of an operator have the same contents after `nil` has adapted. -/
def AlikeInContents (left right : Value) : Bool :=
  (Value.coerceNil left right).1.sameContents (Value.coerceNil left right).2

section Plain

open Value

variable {left right : Value} {isEqual : Bool}

/-- A value without a payload is compared by its contents. -/
theorem sameContents_of_equal? (h : equal? left right = some isEqual)
    (hplain : left.identity? = none ∨ right.identity? = none) :
    left.sameContents right = isEqual := by
  have hofKind : OfKind left.kind right := ofKind_of_kind_eq (kind_eq_of_equal? h).symm
  cases left with
  | slice | map | pointer =>
      have hright : right.identity? = none := hplain.resolve_left (Option.some_ne_none _)
      cases hofKind <;> cases hright
      simp only [sameContents]
      exact Option.some.inj h
  | struct =>
      have hright : right.identity? = none := hplain.resolve_left (Option.some_ne_none _)
      cases hofKind
      cases hright
  | absent n =>
      cases n <;> cases hofKind <;> simp only [sameContents, decide_true] <;>
        exact Option.some.inj h
  | _ =>
      cases hofKind
      rw [sameContents]
      exact Option.some.inj h

theorem identity?_coerceNil (left right : Value) :
    (coerceNil left right).1.identity? = left.identity? ∧
      (coerceNil left right).2.identity? = right.identity? := by
  have hnil : ∀ kind, ((nilOf? kind).getD .nil).identity? = none := by
    intro kind
    cases kind <;> rfl
  fun_cases coerceNil left right with
  | case1 => exact ⟨hnil _, rfl⟩
  | case2 => exact ⟨rfl, hnil _⟩
  | case3 => exact ⟨rfl, rfl⟩

theorem alikeInContents_of_plain (hplain : left.identity? = none ∨ right.identity? = none)
    (h : evalBinary .equal left right = .ok (.bool isEqual)) :
    AlikeInContents left right = isEqual := by
  obtain ⟨hleft, hright⟩ := identity?_coerceNil left right
  apply sameContents_of_equal?
  · cases hcomparison : comparison? left right with
    | none =>
        rw [evalBinary_of_comparison?_eq_none hcomparison] at h
        cases h
    | some answer =>
        rw [(evalBinary_of_comparison? hcomparison).1] at h
        cases h
        exact hcomparison
  · rwa [hleft, hright]

end Plain

section Shared

open Value

variable {store : Store} {a b : Value}

theorem Store.Has.live {id : Identity} (h : store.Has a) (hid : a.identity? = some id) :
    store.Live a := by
  apply h.resolve_left
  rw [hid]
  exact Option.some_ne_none id

@[simp] theorem coerceNil_self (a : Value) : coerceNil a a = (a, a) := by
  cases a <;> rfl

/-- Two payloads that are equal are one, and one that is free of such floats has the contents that
it has. -/
theorem alikeInContents_of_equal (hstore : store.Reached) (ha : store.Has a) (hb : store.Has b)
    (hnumbers : a.FreeOfNaN) (h : evalBinary .equal a b = .ok (.bool true)) :
    AlikeInContents a b = true := by
  cases hida : a.identity? with
  | none => exact alikeInContents_of_plain (.inl hida) h
  | some id =>
      cases evalBinary_equal_eq_true_iff.mp h with
      | plain hplain =>
          rw [hida] at hplain
          cases hplain
      | shared _ hida hidb =>
          rw [← hstore.coherent _ a b (ha.live hida) (hb.live hidb) hida hidb, AlikeInContents,
            coerceNil_self]
          exact sameContents_self a hnumbers
      | _ => cases hida

end Shared

theorem exists_equal_of_kind_eq {a b : Value} (h : a.kind = b.kind) :
    ∃ isEqual, evalBinary .equal a b = .ok (.bool isEqual) := by
  cases hcomparison : Value.comparison? a b with
  | none =>
      have hkinds := Value.comparison?_eq_none_iff.mp hcomparison
      rw [Value.coerceNil_of_kind_ne hkinds] at hkinds
      exact absurd h hkinds
  | some isEqual => exact ⟨isEqual, (evalBinary_of_comparison? hcomparison).1⟩

/-- In whatever a program has made, values that are equal have the same contents, unless they hold
a float that is not a number. This covers every result of an expression on its table. Of two values
that do not both have a payload, equality compares the contents, and it answers for any two of one
kind, so on booleans, integers, strings and `nil` the two equalities are one. The tables of
structures of the host are among those that programs make, by `exists_reached_table_ofHost`. -/
theorem equality_refines_contents {store : Store} (hstore : store.Reached) :
    (∀ e value, eval store.table e = .ok value → store.Has value) ∧
    (∀ a b, store.Has a → store.Has b → a.FreeOfNaN → b.FreeOfNaN →
      evalBinary .equal a b = .ok (.bool true) → AlikeInContents a b = true) ∧
    (∀ a b isEqual, a.identity? = none ∨ b.identity? = none →
      evalBinary .equal a b = .ok (.bool isEqual) → AlikeInContents a b = isEqual) ∧
    ∀ a b : Value, a.kind = b.kind → ∃ isEqual, evalBinary .equal a b = .ok (.bool isEqual) := by
  refine ⟨?_, ?_, ?_, ?_⟩
  · intro e value heval
    exact Store.has_of_eval heval
  · intro a b ha hb hnumbers _ hequal
    exact alikeInContents_of_equal hstore ha hb hnumbers hequal
  · intro a b isEqual hplain hequal
    exact alikeInContents_of_plain hplain hequal
  · intro a b hkind
    exact exists_equal_of_kind_eq hkind

/-- A program that has bound a pointer under two names finds them equal, with the same contents. -/
theorem equality_refines_contents_of_two_handles :
    Store.Reached ⟨[], (SymbolTable.empty.bind "p" (.pointer ⟨0⟩ (.int 5))).bind "q"
      (.pointer ⟨0⟩ (.int 5))⟩ ∧
    AlikeInContents (.pointer ⟨0⟩ (.int 5)) (.pointer ⟨0⟩ (.int 5)) = true := by
  have hint : Store.Reached ⟨[.int 5], .empty⟩ := by
    refine .single (.build ?_ ?_)
    · intro part hpart
      cases hpart
    · intro id other hid
      cases hid
  have hpointer : Store.Reached ⟨[.pointer ⟨0⟩ (.int 5), .int 5], .empty⟩ := by
    refine hint.tail (.build ?_ ?_)
    · rintro part ⟨⟩
      exact List.mem_singleton_self _
    · rintro id other - ⟨root, hheld | ⟨name, hbound⟩, hreaches⟩
      · obtain rfl := List.mem_singleton.mp hheld
        rcases hreaches.cases_head with rfl | ⟨part, hpart, -⟩
        · exact Option.some_ne_none id ∘ Eq.symm
        · cases hpart
      · cases hbound
  have hreached : Store.Reached ⟨[], (SymbolTable.empty.bind "p" (.pointer ⟨0⟩ (.int 5))).bind "q"
      (.pointer ⟨0⟩ (.int 5))⟩ :=
    (((hpointer.tail (.bind "p" List.mem_cons_self)).tail
      (.take (SymbolTable.get?_bind_self _ "p" _))).tail
        (.bind "q" List.mem_cons_self)).tail (.keep (List.nil_subset _))
  obtain ⟨hhas, hcontents, -, -⟩ := equality_refines_contents hreached
  have hp := hhas (.symbol "p") (.pointer ⟨0⟩ (.int 5)) rfl
  have hq := hhas (.symbol "q") (.pointer ⟨0⟩ (.int 5)) rfl
  have hnumbers : Value.FreeOfNaN (.pointer ⟨0⟩ (.int 5)) := by
    intro part hpart
    rcases hpart.cases_head with rfl | ⟨target, ⟨⟩, htarget⟩
    · rfl
    · rcases htarget.cases_head with rfl | ⟨target, ⟨⟩, -⟩
      rfl
  exact ⟨hreached, hcontents _ _ hp hq hnumbers hnumbers rfl⟩

end FieldPredicate
