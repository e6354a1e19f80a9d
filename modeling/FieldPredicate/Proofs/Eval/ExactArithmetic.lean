import FieldPredicate.Eval.Operation

/-!
# Arithmetic on integers is exact or refused

The result of an arithmetic operation is an integer of any size, where the quotient is the one
whose product with the divisor comes closest to the dividend on the way from zero. Both kinds of
machine integers answer with this result if they hold it. Otherwise they refuse the operation: a
division by zero, which has no result, as such, and all else as an overflow.
-/

namespace FieldPredicate

/-! ## Results of any size -/

/-- The quotient that drops the fraction: its product with the divisor goes no farther from zero
than the dividend, and misses it by less than the divisor. -/
structure IsQuotient (a b q : Int) : Prop where
  towardZero : (q * b).natAbs ≤ a.natAbs
  closest : (a - q * b).natAbs < b.natAbs

/-- The result of an arithmetic operation on integers, if it has one. -/
inductive Yields : BinaryOp → Int → Int → Int → Prop
  | add (a b : Int) : Yields .add a b (a + b)
  | sub (a b : Int) : Yields .sub a b (a - b)
  | mul (a b : Int) : Yields .mul a b (a * b)
  | div {a b q : Int} : IsQuotient a b q → Yields .div a b q

section Quotients

variable {a b q q' : Int}

theorem isQuotient_tdiv (a : Int) (h : b ≠ 0) : IsQuotient a b (a.tdiv b) := by
  constructor
  · have hproduct : (a.tdiv b * b).natAbs = a.natAbs / b.natAbs * b.natAbs := by
      rw [Int.natAbs_mul, Int.natAbs_tdiv]
      rfl
    rw [hproduct]
    exact Nat.div_mul_le_self _ _
  · have hremainder : a - a.tdiv b * b = a.tmod b := by
      rw [Int.tmod_def, Int.mul_comm]
    rw [hremainder, Int.natAbs_tmod]
    exact Nat.mod_lt _ (Int.natAbs_pos.mpr h)

theorem IsQuotient.divisor_ne_zero (h : IsQuotient a b q) : b ≠ 0 := by
  have hpos : 0 < b.natAbs := Nat.lt_of_le_of_lt (Nat.zero_le _) h.closest
  exact Int.natAbs_pos.mp hpos

/-- A product that is not zero is at least as far from zero as the divisor, so it cannot stand on
the other side of zero and miss the dividend by less. -/
theorem IsQuotient.unique (h : IsQuotient a b q) (h' : IsQuotient a b q') : q = q' := by
  have hzero : ∀ p : Int, p * b = 0 ∨ b.natAbs ≤ (p * b).natAbs := by
    intro p
    rw [Int.natAbs_mul]
    rcases Nat.eq_zero_or_pos p.natAbs with hp | hp
    · exact .inl (by simp [Int.natAbs_eq_zero.mp hp])
    · exact .inr (Nat.le_mul_of_pos_left _ hp)
  -- The two products differ by a multiple of the divisor that is smaller than the divisor.
  have hdifference : (q - q') * b = q * b - q' * b := Int.sub_mul q q' b
  have hsame : (q - q') * b = 0 := by
    have hq := hzero q
    have hq' := hzero q'
    have hdiff := hzero (q - q')
    obtain ⟨hnear, hclosest⟩ := h
    obtain ⟨hnear', hclosest'⟩ := h'
    rw [hdifference] at hdiff ⊢
    omega
  rcases Int.mul_eq_zero.mp hsame with hq | hb
  · omega
  · exact absurd hb h.divisor_ne_zero

theorem Yields.unique {op : BinaryOp} (h : Yields op a b q) (h' : Yields op a b q') : q = q' := by
  cases h with
  | add | sub | mul =>
      cases h'
      rfl
  | div hq =>
      cases h' with
      | div hq' => exact hq.unique hq'

theorem Yields.not_by_zero {op : BinaryOp} (h : Yields op a b q) : ¬ (op = .div ∧ b = 0) := by
  rintro ⟨rfl, hb⟩
  cases h with
  | div hq => exact hq.divisor_ne_zero hb

end Quotients

/-! ## Machine integers -/

/-- What an operation on two machine integers answers, where `make` makes values of them, `denote`
says which integers they are, and `Fits` which integers they can be. -/
structure ExactOrRefused {α : Type} (make : α → Value) (denote : α → Int) (Fits : Int → Prop)
    (op : BinaryOp) (a b : α) : Prop where
  exact : ∀ n, Yields op (denote a) (denote b) n → Fits n →
    ∃ c, denote c = n ∧ evalBinary op (make a) (make b) = .ok (make c)
  byZero : evalBinary op (make a) (make b) = .error .divisionByZero ↔ op = .div ∧ denote b = 0
  overflow : evalBinary op (make a) (make b) = .error (.overflow op.spelling) ↔
    ∃ n, Yields op (denote a) (denote b) n ∧ ¬ Fits n
  answers : (∃ c, evalBinary op (make a) (make b) = .ok (make c) ∧
      Yields op (denote a) (denote b) (denote c)) ∨
    evalBinary op (make a) (make b) = .error .divisionByZero ∨
    evalBinary op (make a) (make b) = .error (.overflow op.spelling)

section Machine

variable {α : Type} {make : α → Value} {denote : α → Int} {Fits : Int → Prop} {op : BinaryOp}
  {a b : α}

theorem exactOrRefused_of_byZero (hzero : op = .div ∧ denote b = 0)
    (h : evalBinary op (make a) (make b) = .error .divisionByZero) :
    ExactOrRefused make denote Fits op a b := by
  refine ⟨?_, iff_of_true h hzero, ?_, .inr (.inl h)⟩
  · intro n hyields
    exact absurd hzero hyields.not_by_zero
  · constructor
    · intro hoverflow
      rw [h] at hoverflow
      cases hoverflow
    · rintro ⟨n, hyields, -⟩
      exact absurd hzero hyields.not_by_zero

theorem exactOrRefused_of_fits {c : α} (hyields : Yields op (denote a) (denote b) (denote c))
    (hfits : Fits (denote c)) (h : evalBinary op (make a) (make b) = .ok (make c)) :
    ExactOrRefused make denote Fits op a b := by
  refine ⟨?_, ?_, ?_, .inl ⟨c, h, hyields⟩⟩
  · intro n hn _
    exact ⟨c, hyields.unique hn, h⟩
  · apply iff_of_false _ hyields.not_by_zero
    rw [h]
    simp
  · constructor
    · intro hoverflow
      rw [h] at hoverflow
      cases hoverflow
    · rintro ⟨n, hn, hnot⟩
      exact absurd (hyields.unique hn ▸ hfits) hnot

theorem exactOrRefused_of_not_fits {n : Int} (hyields : Yields op (denote a) (denote b) n)
    (hnot : ¬ Fits n)
    (h : evalBinary op (make a) (make b) = .error (.overflow op.spelling)) :
    ExactOrRefused make denote Fits op a b := by
  refine ⟨?_, ?_, iff_of_true h ⟨n, hyields, hnot⟩, .inr (.inr h)⟩
  · intro m hm hfits
    exact absurd (hm.unique hyields ▸ hfits) hnot
  · apply iff_of_false _ hyields.not_by_zero
    rw [h]
    simp

/-- The three cases together: a division by zero, and a result that is narrowed to the machine
integers. -/
theorem exactOrRefused_of_narrowed (narrow : Int → Except EvalError α)
    (hfits : ∀ n, Fits n → ∃ c, denote c = n ∧ narrow n = .ok c)
    (hnot : ∀ n, ¬ Fits n → narrow n = .error (.overflow op.spelling))
    (h : (op = .div ∧ denote b = 0 ∧
        evalBinary op (make a) (make b) = .error .divisionByZero) ∨
      ∃ n, Yields op (denote a) (denote b) n ∧
        evalBinary op (make a) (make b) = (narrow n).map make) :
    ExactOrRefused make denote Fits op a b := by
  rcases h with ⟨hop, hb, hzero⟩ | ⟨n, hyields, hnarrow⟩
  · exact exactOrRefused_of_byZero ⟨hop, hb⟩ hzero
  by_cases hn : Fits n
  · obtain ⟨c, rfl, hc⟩ := hfits n hn
    rw [hc] at hnarrow
    exact exactOrRefused_of_fits hyields hn hnarrow
  · rw [hnot n hn] at hnarrow
    exact exactOrRefused_of_not_fits hyields hn hnarrow

end Machine

/-! ## Signed and unsigned integers -/

def FitsInt64 (n : Int) : Prop :=
  -9223372036854775808 ≤ n ∧ n ≤ 9223372036854775807

def FitsUInt64 (n : Int) : Prop :=
  0 ≤ n ∧ n ≤ 18446744073709551615

/-- The integer that an unsigned machine integer is. -/
def uintValue (n : UInt64) : Int :=
  n.toNat

theorem toInt_neg_of_ne_minValue {n : Int64} (h : n ≠ Int64.minValue) : (-n).toInt = -n.toInt := by
  have hlow : -2 ^ 63 ≤ n.toInt := n.le_toInt
  have hhigh : n.toInt < 2 ^ 63 := n.toInt_lt
  have hne : n.toInt ≠ -2 ^ 63 := fun heq => h (Int64.toInt_inj.mp heq)
  rw [Int64.toInt_neg]
  apply Int.bmod_eq_of_le <;> omega

section Kinds

variable {op : BinaryOp} {n : Int}

theorem fitsInt64_iff : FitsInt64 n ↔ Int64.minValue.toInt ≤ n ∧ n ≤ Int64.maxValue.toInt := by
  have hmax : Int64.maxValue.toInt = 9223372036854775807 := Int64.toInt_maxValue
  have hmin : Int64.minValue.toInt = -9223372036854775808 := Int64.toInt_minValue
  rw [hmin, hmax, FitsInt64]

theorem exactInt_of_fits (h : FitsInt64 n) : ∃ c : Int64, c.toInt = n ∧ exactInt op n = .ok c := by
  refine ⟨.ofInt n, Int64.toInt_ofInt_of_le h.1 (Int.lt_of_le_sub_one h.2), ?_⟩
  rw [exactInt, Literal.fitInt64?, if_pos (fitsInt64_iff.mp h)]

theorem exactInt_of_not_fits (h : ¬ FitsInt64 n) :
    exactInt op n = .error (.overflow op.spelling) := by
  rw [exactInt, Literal.fitInt64?, if_neg (mt fitsInt64_iff.mpr h)]

theorem fitsUInt64_iff : FitsUInt64 n ↔ 0 ≤ n ∧ n < UInt64.size := by
  have hsize : (UInt64.size : Int) = 18446744073709551616 := rfl
  rw [hsize, FitsUInt64]
  omega

theorem exactUint_of_fits (h : FitsUInt64 n) :
    ∃ c, uintValue c = n ∧ exactUint op n = .ok c := by
  have hrange : 0 ≤ n ∧ n < UInt64.size := fitsUInt64_iff.mp h
  refine ⟨.ofNat n.toNat, ?_, by rw [exactUint, if_pos hrange]⟩
  have hlt : n.toNat < 2 ^ 64 := (Int.toNat_lt h.1).mpr hrange.2
  rw [uintValue, UInt64.toNat_ofNat', Nat.mod_eq_of_lt hlt]
  exact Int.toNat_of_nonneg h.1

theorem exactUint_of_not_fits (h : ¬ FitsUInt64 n) :
    exactUint op n = .error (.overflow op.spelling) := by
  have hrange : ¬ (0 ≤ n ∧ n < UInt64.size) := mt fitsUInt64_iff.mpr h
  rw [exactUint, if_neg hrange]

end Kinds

section Operators

variable {op : BinaryOp}

theorem evalBinary_int_cases (hop : op.family = .arithmetic) (a b : Int64) :
    (op = .div ∧ b.toInt = 0 ∧ evalBinary op (.int a) (.int b) = .error .divisionByZero) ∨
      ∃ n, Yields op a.toInt b.toInt n ∧
        evalBinary op (.int a) (.int b) = (exactInt op n).map .int := by
  have heval : evalBinary op (.int a) (.int b) = (intArithmetic op a b).map .int := by
    have hroute : evalBinary op (.int a) (.int b) = evalFamily op.family op (.int a) (.int b) :=
      rfl
    rw [hroute, hop]
    rfl
  rw [heval]
  cases op with
  | add => exact .inr ⟨_, .add _ _, rfl⟩
  | sub => exact .inr ⟨_, .sub _ _, rfl⟩
  | mul => exact .inr ⟨_, .mul _ _, rfl⟩
  | div =>
      by_cases hb : b = 0
      · subst hb
        exact .inl ⟨rfl, rfl, rfl⟩
      · have hne : b.toInt ≠ 0 := fun h => hb (Int64.toInt_inj.mp h)
        refine .inr ⟨a.toInt.tdiv b.toInt, .div (isQuotient_tdiv _ hne), ?_⟩
        rw [intArithmetic, if_neg hb]
  | _ => cases hop

theorem evalBinary_uint_cases (hop : op.family = .arithmetic) (a b : UInt64) :
    (op = .div ∧ uintValue b = 0 ∧ evalBinary op (.uint a) (.uint b) = .error .divisionByZero) ∨
      ∃ n, Yields op (uintValue a) (uintValue b) n ∧
        evalBinary op (.uint a) (.uint b) = (exactUint op n).map .uint := by
  have heval : evalBinary op (.uint a) (.uint b) = (uintArithmetic op a b).map .uint := by
    have hroute :
        evalBinary op (.uint a) (.uint b) = evalFamily op.family op (.uint a) (.uint b) :=
      rfl
    rw [hroute, hop]
    rfl
  rw [heval]
  cases op with
  | add => exact .inr ⟨_, .add _ _, rfl⟩
  | sub => exact .inr ⟨_, .sub _ _, rfl⟩
  | mul => exact .inr ⟨_, .mul _ _, rfl⟩
  | div =>
      by_cases hb : b = 0
      · subst hb
        exact .inl ⟨rfl, rfl, rfl⟩
      · have hne : uintValue b ≠ 0 := by
          intro h
          exact hb (UInt64.toNat_inj.mp (Int.ofNat_eq_zero.mp h))
        refine .inr ⟨(uintValue a).tdiv (uintValue b), .div (isQuotient_tdiv _ hne), ?_⟩
        rw [uintArithmetic, if_neg hb]
        rfl
  | _ => cases hop

/-- Of all quotients of signed integers a single one does not fit. -/
theorem yields_div_not_fits_iff (a b : Int64) :
    (∃ n, Yields .div a.toInt b.toInt n ∧ ¬ FitsInt64 n) ↔ a = Int64.minValue ∧ b = -1 := by
  constructor
  · rintro ⟨q, hyields, hnot⟩
    have hlow : -2 ^ 63 ≤ a.toInt := a.le_toInt
    have hhigh : a.toInt < 2 ^ 63 := a.toInt_lt
    cases hyields with
    | div hq =>
        have hb : 0 < b.toInt.natAbs := Int.natAbs_pos.mpr hq.divisor_ne_zero
        obtain ⟨hnear, hclosest⟩ := hq
        have hproduct : (q * b.toInt).natAbs = q.natAbs * b.toInt.natAbs := Int.natAbs_mul _ _
        have hle : q.natAbs ≤ q.natAbs * b.toInt.natAbs := Nat.le_mul_of_pos_right _ hb
        have hq : q = 2 ^ 63 := by
          rw [FitsInt64] at hnot
          omega
        subst hq
        have ha : a.toInt = -2 ^ 63 := by omega
        have hb : b.toInt = -1 := by omega
        exact ⟨Int64.toInt_inj.mp ha, Int64.toInt_inj.mp hb⟩
  · rintro ⟨rfl, rfl⟩
    refine ⟨2 ^ 63, .div ⟨by decide, by decide⟩, ?_⟩
    rw [FitsInt64]
    decide

theorem yields_sub_not_fits_iff (a b : UInt64) :
    (∃ n, Yields .sub (uintValue a) (uintValue b) n ∧ ¬ FitsUInt64 n) ↔ a < b := by
  have ha : a.toNat < 2 ^ 64 := a.toNat_lt
  rw [UInt64.lt_iff_toNat_lt]
  constructor
  · rintro ⟨n, hyields, hnot⟩
    cases hyields
    simp only [FitsUInt64, uintValue] at hnot
    omega
  · intro hlt
    refine ⟨_, .sub _ _, ?_⟩
    simp only [FitsUInt64, uintValue]
    omega

end Operators

/-- Arithmetic on two signed or two unsigned integers answers with the exact result if it fits, with
a division by zero exactly for a divisor that is zero, and with an overflow of the operator exactly
for a result that does not fit. Among quotients that is one of the least integer alone, and among
unsigned differences it is every one below zero. -/
theorem evalBinary_exact_or_refused (op : BinaryOp) (hop : op.family = .arithmetic) :
    (∀ a b : Int64, ExactOrRefused .int Int64.toInt FitsInt64 op a b) ∧
      (∀ a b : UInt64, ExactOrRefused .uint uintValue FitsUInt64 op a b) ∧
      (∀ a b : Int64, op = .div →
        (evalBinary op (.int a) (.int b) = .error (.overflow op.spelling) ↔
          a = Int64.minValue ∧ b = -1)) ∧
      ∀ a b : UInt64, op = .sub →
        (evalBinary op (.uint a) (.uint b) = .error (.overflow op.spelling) ↔ a < b) := by
  have hint : ∀ a b : Int64, ExactOrRefused .int Int64.toInt FitsInt64 op a b := by
    intro a b
    apply exactOrRefused_of_narrowed (exactInt op)
    · exact fun n => exactInt_of_fits
    · exact fun n => exactInt_of_not_fits
    · exact evalBinary_int_cases hop a b
  have huint : ∀ a b : UInt64, ExactOrRefused .uint uintValue FitsUInt64 op a b := by
    intro a b
    apply exactOrRefused_of_narrowed (exactUint op)
    · exact fun n => exactUint_of_fits
    · exact fun n => exactUint_of_not_fits
    · exact evalBinary_uint_cases hop a b
  refine ⟨hint, huint, ?_, ?_⟩
  · rintro a b rfl
    exact (hint a b).overflow.trans (yields_div_not_fits_iff a b)
  · rintro a b rfl
    exact (huint a b).overflow.trans (yields_sub_not_fits_iff a b)

/-- The quotient of `-7` and `2` is `-3`, that of the least integer and `-1` does not fit, and `3`
is less than `5`. -/
theorem evalBinary_exact_or_refused_at_edges :
    BinaryOp.div.family = .arithmetic ∧ BinaryOp.sub.family = .arithmetic ∧
      (∃ c : Int64, c.toInt = -3 ∧ evalBinary .div (.int (-7)) (.int 2) = .ok (.int c)) ∧
      evalBinary .div (.int Int64.minValue) (.int (-1)) = .error (.overflow "/") ∧
      evalBinary .sub (.uint 3) (.uint 5) = .error (.overflow "-") := by
  obtain ⟨hint, -, hleast, -⟩ := evalBinary_exact_or_refused .div rfl
  obtain ⟨-, -, -, hbelow⟩ := evalBinary_exact_or_refused .sub rfl
  have hquotient : Yields .div (Int64.toInt (-7)) (Int64.toInt 2) (-3) :=
    .div ⟨by decide, by decide⟩
  refine ⟨rfl, rfl, ?_, ?_, ?_⟩
  · exact (hint (-7) 2).exact (-3) hquotient ⟨by decide, by decide⟩
  · exact (hleast _ _ rfl).mpr ⟨rfl, rfl⟩
  · exact (hbelow 3 5 rfl).mpr (by decide)

end FieldPredicate
