import FieldPredicate.Eval.Operation
import FieldPredicate.Proofs.Eval.OperatorKinds
import FieldPredicate.Proofs.Text.TextOrder

/-!
# The laws of ordering

Integers of both kinds and strings have a linear order each, and all operators that compare two
such values read it. So their answers fit together: exactly one of less, equal and greater holds,
and the operators that allow equality are the negations of the strict ones. The order of strings is
that of their code points, and of their bytes, so a common beginning does not matter.
-/

namespace FieldPredicate

/-- The kinds of which any two values are equal or ordered. -/
def Kind.isLinear : Kind → Bool
  | .int | .uint | .string => true
  | _ => false

/-! ## What two values of one kind answer -/

/-- Exactly one of less, equal and greater holds, and the other operators follow from these. -/
structure ComparesLinearly (a b : Value) : Prop where
  oneOfThree : ∃ less equal greater, evalBinary .less a b = .ok (.bool less) ∧
    evalBinary .equal a b = .ok (.bool equal) ∧ evalBinary .greater a b = .ok (.bool greater) ∧
    (less, equal, greater) ∈ [(true, false, false), (false, true, false), (false, false, true)]
  lessEqual : ∃ greater, evalBinary .greater a b = .ok (.bool greater) ∧
    evalBinary .lessEqual a b = .ok (.bool !greater)
  greaterEqual : ∃ less, evalBinary .less a b = .ok (.bool less) ∧
    evalBinary .greaterEqual a b = .ok (.bool !less)
  exchange : evalBinary .greater a b = evalBinary .less b a

section Orders

variable {α : Type} [LT α] [LE α] [DecidableEq α] [DecidableLT α] [DecidableLE α]

/-- The values of the kind are those made by `mk`, and the operators compare them as what they are
made of is compared. -/
structure ReadsOrder (kind : Kind) (mk : α → Value) : Prop where
  exists_eq : ∀ {value : Value}, value.kind = kind → ∃ x, value = mk x
  ordering : ∀ op x y, op.family = .ordering →
    evalBinary op (mk x) (mk y) = (compareBy op x y).map .bool
  equal : ∀ x y, evalBinary .equal (mk x) (mk y) = .ok (.bool (x = y))

namespace ReadsOrder

variable {kind : Kind} {mk : α → Value} {a b c : Value}

theorem less_eq_true_iff (h : ReadsOrder kind mk) {x y : α} :
    evalBinary .less (mk x) (mk y) = .ok (.bool true) ↔ x < y := by
  simp [h.ordering .less x y rfl, compareBy, Except.map]

variable [Std.IsLinearOrder α] [Std.LawfulOrderLT α]

theorem less_trans (h : ReadsOrder kind mk) (ha : a.kind = kind) (hb : b.kind = kind)
    (hc : c.kind = kind) (hab : evalBinary .less a b = .ok (.bool true))
    (hbc : evalBinary .less b c = .ok (.bool true)) :
    evalBinary .less a c = .ok (.bool true) := by
  obtain ⟨x, rfl⟩ := h.exists_eq ha
  obtain ⟨y, rfl⟩ := h.exists_eq hb
  obtain ⟨z, rfl⟩ := h.exists_eq hc
  rw [h.less_eq_true_iff] at hab hbc ⊢
  exact Std.lt_trans hab hbc

theorem oneOfThree (h : ReadsOrder kind mk) (x y : α) :
    ∃ less equal greater, evalBinary .less (mk x) (mk y) = .ok (.bool less) ∧
      evalBinary .equal (mk x) (mk y) = .ok (.bool equal) ∧
      evalBinary .greater (mk x) (mk y) = .ok (.bool greater) ∧
      (less, equal, greater) ∈
        [(true, false, false), (false, true, false), (false, false, true)] := by
  refine ⟨_, _, _, h.ordering .less x y rfl, h.equal x y, h.ordering .greater x y rfl, ?_⟩
  rcases Std.lt_trichotomy x y with hlt | rfl | hgt
  · simp [hlt, Std.ne_of_lt hlt, Std.not_gt_of_lt hlt]
  · simp [Std.lt_irrefl]
  · simp [hgt, (Std.ne_of_lt hgt).symm, Std.not_gt_of_lt hgt]

theorem comparesLinearly (h : ReadsOrder kind mk) (ha : a.kind = kind) (hb : b.kind = kind) :
    ComparesLinearly a b := by
  obtain ⟨x, rfl⟩ := h.exists_eq ha
  obtain ⟨y, rfl⟩ := h.exists_eq hb
  refine ⟨h.oneOfThree x y, ?_, ?_, ?_⟩
  · refine ⟨_, h.ordering .greater x y rfl, ?_⟩
    rw [h.ordering .lessEqual x y rfl, ← decide_not, decide_eq_decide.mpr Std.not_lt]
    rfl
  · refine ⟨_, h.ordering .less x y rfl, ?_⟩
    rw [h.ordering .greaterEqual x y rfl, ← decide_not, decide_eq_decide.mpr Std.not_lt]
    rfl
  · rw [h.ordering .greater x y rfl, h.ordering .less y x rfl]
    rfl

end ReadsOrder

end Orders

theorem evalBinary_of_kind_eq (op : BinaryOp) (left right : Value)
    (hsame : Value.coerceNil left right = (left, right)) (hkinds : left.kind = right.kind) :
    evalBinary op left right = evalFamily op.family op left right := by
  simp only [evalBinary, hsame, if_pos hkinds]

theorem readsOrder_int : ReadsOrder .int Value.int where
  exists_eq h := by
    cases Value.ofKind_of_kind_eq h with
    | int x => exact ⟨x, rfl⟩
  ordering op x y h := by
    rw [evalBinary_of_kind_eq op (.int x) (.int y) rfl rfl, h]
    rfl
  equal _ _ := rfl

theorem readsOrder_uint : ReadsOrder .uint Value.uint where
  exists_eq h := by
    cases Value.ofKind_of_kind_eq h with
    | uint x => exact ⟨x, rfl⟩
  ordering op x y h := by
    rw [evalBinary_of_kind_eq op (.uint x) (.uint y) rfl rfl, h]
    rfl
  equal _ _ := rfl

theorem readsOrder_string : ReadsOrder .string Value.string where
  exists_eq h := by
    cases Value.ofKind_of_kind_eq h with
    | string x => exact ⟨x, rfl⟩
  ordering op x y h := by
    rw [evalBinary_of_kind_eq op (.string x) (.string y) rfl rfl, h]
    rfl
  equal _ _ := rfl

section Laws

variable {kind : Kind} {a b c : Value}

theorem comparesLinearly (hlinear : kind.isLinear = true) (ha : a.kind = kind)
    (hb : b.kind = kind) : ComparesLinearly a b := by
  cases kind with
  | int => exact readsOrder_int.comparesLinearly ha hb
  | uint => exact readsOrder_uint.comparesLinearly ha hb
  | string => exact readsOrder_string.comparesLinearly ha hb
  | _ => cases hlinear

theorem less_trans (hlinear : kind.isLinear = true) (ha : a.kind = kind) (hb : b.kind = kind)
    (hc : c.kind = kind) (hab : evalBinary .less a b = .ok (.bool true))
    (hbc : evalBinary .less b c = .ok (.bool true)) :
    evalBinary .less a c = .ok (.bool true) := by
  cases kind with
  | int => exact readsOrder_int.less_trans ha hb hc hab hbc
  | uint => exact readsOrder_uint.less_trans ha hb hc hab hbc
  | string => exact readsOrder_string.less_trans ha hb hc hab hbc
  | _ => cases hlinear

end Laws

/-! ## The orders themselves -/

@[simp] theorem evalBinary_less_int (a b : Int64) :
    evalBinary .less (.int a) (.int b) = .ok (.bool (a.toInt < b.toInt)) := by
  have hless : evalBinary .less (.int a) (.int b) = .ok (.bool (a < b)) := rfl
  rw [hless, decide_eq_decide.mpr Int64.lt_iff_toInt_lt]

@[simp] theorem evalBinary_less_uint (a b : UInt64) :
    evalBinary .less (.uint a) (.uint b) = .ok (.bool (a.toNat < b.toNat)) := by
  have hless : evalBinary .less (.uint a) (.uint b) = .ok (.bool (a < b)) := rfl
  rw [hless, decide_eq_decide.mpr UInt64.lt_iff_toNat_lt]

/-- The order of two strings, and what joining them with others does to it. -/
structure OrdersTexts (s t : String) : Prop where
  codePoints : evalBinary .less (.string s) (.string t) =
    .ok (.bool (Text.codePoints s < Text.codePoints t))
  utf8 : evalBinary .less (.string s) (.string t) = .ok (.bool (Text.utf8 s < Text.utf8 t))
  /-- A string is not after what it begins. -/
  begun : (evalBinary .add (.string s) (.string t)).bind (evalBinary .lessEqual (.string s)) =
    .ok (.bool true)
  /-- A common beginning does not matter. -/
  behind : ∀ p : String,
    ((evalBinary .add (.string p) (.string s)).bind fun ps =>
      (evalBinary .add (.string p) (.string t)).bind (evalBinary .less ps)) =
      evalBinary .less (.string s) (.string t)

@[simp] theorem evalBinary_add_string (s t : String) :
    evalBinary .add (.string s) (.string t) = .ok (.string (s ++ t)) := rfl

@[simp] theorem evalBinary_less_string (s t : String) :
    evalBinary .less (.string s) (.string t) = .ok (.bool (s < t)) := rfl

theorem ordersTexts (s t : String) : OrdersTexts s t where
  codePoints := by
    rw [evalBinary_less_string, decide_eq_decide.mpr Text.codePoints_lt_iff]
  utf8 := by
    rw [evalBinary_less_string, decide_eq_decide.mpr Text.utf8_lt_iff]
  begun := by
    have hle : evalBinary .lessEqual (.string s) (.string (s ++ t)) = .ok (.bool (s ≤ s ++ t)) :=
      rfl
    rw [evalBinary_add_string, Except.bind, hle, decide_eq_true (Text.le_append s t)]
  behind p := by
    simp only [evalBinary_add_string, Except.bind]
    rw [evalBinary_less_string, evalBinary_less_string,
      decide_eq_decide.mpr (Text.append_lt_append_iff p)]

/-! ## All laws together -/

/-- The operators that compare read one linear order on integers of each kind and on strings.
Integers are ordered by size, and strings by their code points, or by their bytes in UTF-8. -/
theorem ordering_laws :
    (∀ a b : Value, a.kind.isLinear = true → b.kind = a.kind → ComparesLinearly a b) ∧
    (∀ a b c : Value, a.kind.isLinear = true → b.kind = a.kind → c.kind = a.kind →
      evalBinary .less a b = .ok (.bool true) → evalBinary .less b c = .ok (.bool true) →
      evalBinary .less a c = .ok (.bool true)) ∧
    (∀ a b : Int64, evalBinary .less (.int a) (.int b) = .ok (.bool (a.toInt < b.toInt))) ∧
    (∀ a b : UInt64, evalBinary .less (.uint a) (.uint b) = .ok (.bool (a.toNat < b.toNat))) ∧
    ∀ s t : String, OrdersTexts s t := by
  refine ⟨?_, ?_, evalBinary_less_int, evalBinary_less_uint, ordersTexts⟩
  · intro a b ha hb
    exact comparesLinearly ha rfl hb
  · intro a b c ha hb hc hab hbc
    exact less_trans ha rfl hb hc hab hbc

/-- The least signed integer is before the greatest one, by way of zero, and a wide tilde is before
a smiling face, which has the greater code point. -/
theorem ordering_laws_at_extremes :
    ComparesLinearly (.int (-9223372036854775808)) (.int 9223372036854775807) ∧
    evalBinary .less (.int (-9223372036854775808)) (.int 9223372036854775807) =
      .ok (.bool true) ∧
    evalBinary .less (.string "～") (.string "😀") = .ok (.bool true) := by
  obtain ⟨hpair, htrans, -, -, htexts⟩ := ordering_laws
  refine ⟨hpair _ _ rfl rfl, htrans _ (.int 0) _ rfl rfl rfl rfl rfl, ?_⟩
  rw [(htexts _ _).codePoints]
  rfl

end FieldPredicate
