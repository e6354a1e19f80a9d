import FieldPredicate.Proofs.Eval.ExactArithmetic
import Mathlib.Data.Int.Bitwise
import Mathlib.Data.Int.ModEq
import Mathlib.Data.Rat.Floor

/-!
# Bitwise operators as arithmetic

A machine integer is an integer in a range of `2 ^ 64` integers, so it is determined by its residue
modulo `2 ^ 64`, and by its bits in two's complement. A shift to the left multiplies the residue by
a power of two, and a shift to the right divides by one and rounds down. Since both ranges begin at
a multiple of every such power, rounding down to a multiple does not leave them.
-/

namespace FieldPredicate

/-! ## Bits and residues of words -/

section Words

variable {n : Nat}

/-- The bits of a signed reading go on with the sign above the width. -/
theorem testBit_toInt {w : Nat} (x : BitVec w) (i : Nat) :
    x.toInt.testBit i = if i < w then x.getLsbD i else x.msb := by
  rw [BitVec.toInt_eq_msb_cond]
  cases hmsb : x.msb with
  | false =>
      have hbit : (x.toNat : Int).testBit i = x.getLsbD i := x.testBit_toNat
      simp only [Bool.false_eq_true, if_false, hbit]
      split
      · rfl
      · exact BitVec.getLsbD_of_ge x i (by omega)
  | true =>
      have hnat : x.toNat < 2 ^ w := x.isLt
      have hneg : (x.toNat : Int) - (2 ^ w : Nat) = Int.negSucc (2 ^ w - (x.toNat + 1)) := by
        omega
      rw [if_pos rfl, hneg, Int.testBit, Nat.testBit_two_pow_sub_succ hnat, x.testBit_toNat]
      by_cases hi : i < w <;> simp [hi]

theorem testBit_toInt_and (a b : Int64) (i : Nat) :
    (a &&& b).toInt.testBit i = (a.toInt.testBit i && b.toInt.testBit i) := by
  simp only [← Int64.toInt_toBitVec, Int64.toBitVec_and, testBit_toInt, BitVec.getLsbD_and,
    BitVec.msb_and]
  split <;> rfl

theorem testBit_toInt_or (a b : Int64) (i : Nat) :
    (a ||| b).toInt.testBit i = (a.toInt.testBit i || b.toInt.testBit i) := by
  simp only [← Int64.toInt_toBitVec, Int64.toBitVec_or, testBit_toInt, BitVec.getLsbD_or,
    BitVec.msb_or]
  split <;> rfl

/-- A count below the width is not reduced. -/
theorem toBitVec_count (hn : n < 64) :
    ((Int64.ofNat n).toBitVec.smod 64).toNat = n := by
  have hall : ∀ m < 64, ((Int64.ofNat m).toBitVec.smod 64).toNat = m := by decide
  exact hall n hn

theorem toInt_shiftLeft_modEq (a : Int64) (hn : n < 64) :
    (a <<< Int64.ofNat n).toInt ≡ a.toInt * 2 ^ n [ZMOD 2 ^ 64] := by
  rw [← Int64.toInt_toBitVec, Int64.toBitVec_shiftLeft, BitVec.shiftLeft_eq', toBitVec_count hn,
    BitVec.toInt_shiftLeft, ← Int64.toInt_toBitVec, BitVec.toInt_eq_toNat_bmod a.toBitVec,
    Nat.shiftLeft_eq]
  have hshifted : ((a.toBitVec.toNat * 2 ^ n : Nat) : Int).bmod (2 ^ 64) ≡
      (a.toBitVec.toNat * 2 ^ n : Nat) [ZMOD 2 ^ 64] := Int.bmod_emod
  have hword : (a.toBitVec.toNat : Int).bmod (2 ^ 64) ≡ a.toBitVec.toNat [ZMOD 2 ^ 64] :=
    Int.bmod_emod
  apply hshifted.trans
  push_cast
  exact (hword.mul_right _).symm

theorem toInt_shiftRight (a : Int64) (hn : n < 64) :
    (a >>> Int64.ofNat n).toInt = a.toInt / 2 ^ n := by
  rw [← Int64.toInt_toBitVec, Int64.toBitVec_shiftRight, BitVec.toInt_sshiftRight',
    toBitVec_count hn, Int.shiftRight_eq_div_pow]
  push_cast
  rfl

theorem testBit_uintValue_and (a b : UInt64) (i : Nat) :
    (uintValue (a &&& b)).testBit i = ((uintValue a).testBit i && (uintValue b).testBit i) := by
  have hbit : (a &&& b).toNat.testBit i = (a.toNat.testBit i && b.toNat.testBit i) := by
    rw [UInt64.toNat_and, Nat.testBit_and]
  exact hbit

theorem testBit_uintValue_or (a b : UInt64) (i : Nat) :
    (uintValue (a ||| b)).testBit i = ((uintValue a).testBit i || (uintValue b).testBit i) := by
  have hbit : (a ||| b).toNat.testBit i = (a.toNat.testBit i || b.toNat.testBit i) := by
    rw [UInt64.toNat_or, Nat.testBit_or]
  exact hbit

theorem toNat_count (hn : n < 64) : (UInt64.ofNat n).toNat % 64 = n := by
  have hall : ∀ m < 64, (UInt64.ofNat m).toNat % 64 = m := by decide
  exact hall n hn

theorem uintValue_shiftLeft_modEq (a : UInt64) (hn : n < 64) :
    uintValue (a <<< UInt64.ofNat n) ≡ uintValue a * 2 ^ n [ZMOD 2 ^ 64] := by
  rw [uintValue, uintValue, UInt64.toNat_shiftLeft, toNat_count hn, Nat.shiftLeft_eq]
  push_cast
  exact Int.mod_modEq _ _

theorem uintValue_shiftRight (a : UInt64) (hn : n < 64) :
    uintValue (a >>> UInt64.ofNat n) = uintValue a / 2 ^ n := by
  rw [uintValue, uintValue, UInt64.toNat_shiftRight, toNat_count hn, Nat.shiftRight_eq_div_pow]
  push_cast
  rfl

end Words

/-! ## Shifts on either range -/

section Counts

theorem shiftCount_of_lt {n : Nat} (hn : n < 64) : shiftCount n = .ok n := by
  rw [shiftCount, if_pos (by omega)]
  rfl

theorem shiftCount_of_not_lt {count : Int} (h : ¬ (0 ≤ count ∧ count < 64)) :
    shiftCount count = .error (.shiftOutOfRange (toString count)) := by
  rw [shiftCount, if_neg h]
  rfl

end Counts

/-- Dividing and rounding down gives the greatest multiple that is not above. -/
theorem isGreatest_multiple (a : Int) {d : Int} (hd : 0 < d) :
    IsGreatest {m | d ∣ m ∧ m ≤ a} (a / d * d) := by
  constructor
  · exact ⟨Int.dvd_mul_left _ _, Int.ediv_mul_le a (by omega)⟩
  · rintro m ⟨⟨q, rfl⟩, hle⟩
    rw [Int.mul_comm d q] at hle ⊢
    exact Int.mul_le_mul_of_nonneg_right (Int.le_ediv_of_mul_le hd hle) hd.le

/-- What the bitwise operators answer on two machine integers, where `make` makes values of them,
`denote` says which integers they are, and `Fits` which integers they can be. -/
structure BitsAsArithmetic {α : Type} (make : α → Value) (denote : α → Int) (Fits : Int → Prop)
    (a b : α) : Prop where
  bitAnd : ∃ c, evalBinary .bitAnd (make a) (make b) = .ok (make c) ∧
    ∀ i, (denote c).testBit i = ((denote a).testBit i && (denote b).testBit i)
  bitOr : ∃ c, evalBinary .bitOr (make a) (make b) = .ok (make c) ∧
    ∀ i, (denote c).testBit i = ((denote a).testBit i || (denote b).testBit i)
  shiftLeft : ∀ n : Nat, denote b = n → n < 64 →
    ∃ c, evalBinary .shiftLeft (make a) (make b) = .ok (make c) ∧
      (∀ d, denote d ≡ denote a * 2 ^ n [ZMOD 2 ^ 64] ↔ d = c) ∧
      (Fits (denote a * 2 ^ n) → denote c = denote a * 2 ^ n)
  shiftRight : ∀ n : Nat, denote b = n → n < 64 →
    ∃ c, evalBinary .shiftRight (make a) (make b) = .ok (make c) ∧
      denote c = ⌊(denote a / 2 ^ n : ℚ)⌋ ∧ (denote c < 0 ↔ denote a < 0)
  rightThenLeft : ∀ n : Nat, denote b = n → n < 64 →
    ∃ c d, evalBinary .shiftRight (make a) (make b) = .ok (make c) ∧
      evalBinary .shiftLeft (make c) (make b) = .ok (make d) ∧
      IsGreatest {m : Int | 2 ^ n ∣ m ∧ m ≤ denote a} (denote d)
  outOfRange : ¬ (0 ≤ denote b ∧ denote b < 64) → ∀ op, op = .shiftLeft ∨ op = .shiftRight →
    evalBinary op (make a) (make b) = .error (.shiftOutOfRange (toString (denote b)))

/-- Machine integers are the `2 ^ 64` integers from a least one on, and their shifts are those of
the residues. -/
structure ShiftsResidues {α : Type} (make : α → Value) (denote : α → Int) (least : Int)
    (left right : α → Nat → α) : Prop where
  injective : ∀ {a b}, denote a = denote b → a = b
  range : ∀ a, least ≤ denote a ∧ denote a < least + 2 ^ 64
  exists_of_range : ∀ {m}, least ≤ m → m < least + 2 ^ 64 → ∃ a, denote a = m
  least_dvd : (2 ^ 63 : Int) ∣ least
  evalLeft : ∀ a b, evalBinary .shiftLeft (make a) (make b) =
    ((shiftCount (denote b)).map (left a)).map make
  evalRight : ∀ a b, evalBinary .shiftRight (make a) (make b) =
    ((shiftCount (denote b)).map (right a)).map make
  left_modEq : ∀ a {n}, n < 64 → denote (left a n) ≡ denote a * 2 ^ n [ZMOD 2 ^ 64]
  right_eq : ∀ a {n}, n < 64 → denote (right a n) = denote a / 2 ^ n

namespace ShiftsResidues

variable {α : Type} {make : α → Value} {denote : α → Int} {least : Int} {left right : α → Nat → α}
  {a b : α} {n : Nat}

theorem eq_of_modEq (h : ShiftsResidues make denote least left right)
    (hmod : denote a ≡ denote b [ZMOD 2 ^ 64]) : a = b := by
  apply h.injective
  have ha := h.range a
  have hb := h.range b
  have hresidue : denote a % 2 ^ 64 = denote b % 2 ^ 64 := hmod
  omega

theorem eq_of_range (h : ShiftsResidues make denote least left right) (hn : n < 64)
    (hlow : least ≤ denote a * 2 ^ n) (hhigh : denote a * 2 ^ n < least + 2 ^ 64) :
    denote (left a n) = denote a * 2 ^ n := by
  obtain ⟨c, hc⟩ := h.exists_of_range hlow hhigh
  have hmod : denote (left a n) ≡ denote c [ZMOD 2 ^ 64] := by
    rw [hc]
    exact h.left_modEq a hn
  rw [h.eq_of_modEq hmod, hc]

theorem denote_right_left (h : ShiftsResidues make denote least left right) (hn : n < 64) :
    denote (left (right a n) n) = denote a / 2 ^ n * 2 ^ n := by
  have hpos : (0 : Int) < 2 ^ n := Int.pow_pos (by decide)
  have hgreatest := isGreatest_multiple (denote a) hpos
  have hrange := h.range a
  -- The least integer is a multiple itself, so the greatest one below `a` is not less.
  have hdvd : (2 ^ n : Int) ∣ least := by
    apply Int.dvd_trans _ h.least_dvd
    exact pow_dvd_pow 2 (by omega)
  have hlow : least ≤ denote a / 2 ^ n * 2 ^ n := hgreatest.2 ⟨hdvd, hrange.1⟩
  have hhigh : denote a / 2 ^ n * 2 ^ n ≤ denote a := hgreatest.1.2
  rw [← h.right_eq a hn] at hlow hhigh ⊢
  exact h.eq_of_range hn hlow (by omega)

theorem bitsAsArithmetic (h : ShiftsResidues make denote least left right) {Fits : Int → Prop}
    (hfits : ∀ m, Fits m → least ≤ m ∧ m < least + 2 ^ 64)
    (hand : ∃ c, evalBinary .bitAnd (make a) (make b) = .ok (make c) ∧
      ∀ i, (denote c).testBit i = ((denote a).testBit i && (denote b).testBit i))
    (hor : ∃ c, evalBinary .bitOr (make a) (make b) = .ok (make c) ∧
      ∀ i, (denote c).testBit i = ((denote a).testBit i || (denote b).testBit i)) :
    BitsAsArithmetic make denote Fits a b where
  bitAnd := hand
  bitOr := hor
  shiftLeft := by
    intro n hb hn
    refine ⟨left a n, ?_, ?_, ?_⟩
    · rw [h.evalLeft, hb, shiftCount_of_lt hn]
      rfl
    · intro d
      constructor
      · intro hd
        exact h.eq_of_modEq (hd.trans (h.left_modEq a hn).symm)
      · rintro rfl
        exact h.left_modEq a hn
    · intro hproduct
      obtain ⟨hlow, hhigh⟩ := hfits _ hproduct
      exact h.eq_of_range hn hlow hhigh
  shiftRight := by
    intro n hb hn
    refine ⟨right a n, ?_, ?_, ?_⟩
    · rw [h.evalRight, hb, shiftCount_of_lt hn]
      rfl
    · have hfloor := Rat.floor_intCast_div_natCast (denote a) (2 ^ n)
      push_cast at hfloor
      rw [h.right_eq a hn, hfloor]
    · rw [h.right_eq a hn, ← Int.not_le, ← Int.not_le]
      exact not_congr (Int.ediv_nonneg_iff_of_pos (Int.pow_pos (by decide)))
  rightThenLeft := by
    intro n hb hn
    refine ⟨right a n, left (right a n) n, ?_, ?_, ?_⟩
    · rw [h.evalRight, hb, shiftCount_of_lt hn]
      rfl
    · rw [h.evalLeft, hb, shiftCount_of_lt hn]
      rfl
    · rw [h.denote_right_left hn]
      exact isGreatest_multiple (denote a) (Int.pow_pos (by decide))
  outOfRange := by
    intro hcount op hop
    rcases hop with rfl | rfl
    · rw [h.evalLeft, shiftCount_of_not_lt hcount]
      rfl
    · rw [h.evalRight, shiftCount_of_not_lt hcount]
      rfl

end ShiftsResidues

/-! ## Signed and unsigned integers -/

theorem shiftsResidues_int : ShiftsResidues .int Int64.toInt (-2 ^ 63)
    (fun a n => a <<< Int64.ofNat n) fun a n => a >>> Int64.ofNat n where
  injective := Int64.toInt_inj.mp
  range a := by
    have hlow : -2 ^ 63 ≤ a.toInt := a.le_toInt
    have hhigh : a.toInt < 2 ^ 63 := a.toInt_lt
    omega
  exists_of_range hlow hhigh := ⟨.ofInt _, Int64.toInt_ofInt_of_le hlow (by omega)⟩
  least_dvd := by decide
  evalLeft _ _ := rfl
  evalRight _ _ := rfl
  left_modEq a _ hn := toInt_shiftLeft_modEq a hn
  right_eq a _ hn := toInt_shiftRight a hn

theorem shiftsResidues_uint : ShiftsResidues .uint uintValue 0
    (fun a n => a <<< UInt64.ofNat n) fun a n => a >>> UInt64.ofNat n where
  injective h := UInt64.toNat_inj.mp (Int.ofNat_inj.mp h)
  range a := by
    have hhigh : a.toNat < 2 ^ 64 := a.toNat_lt
    rw [uintValue]
    omega
  exists_of_range {m} hlow hhigh := by
    have hfits : FitsUInt64 m := ⟨hlow, by omega⟩
    obtain ⟨c, hc, -⟩ := @exactUint_of_fits .add m hfits
    exact ⟨c, hc⟩
  least_dvd := by decide
  evalLeft _ _ := rfl
  evalRight _ _ := rfl
  left_modEq a _ hn := uintValue_shiftLeft_modEq a hn
  right_eq a _ hn := uintValue_shiftRight a hn

/-- On two signed or two unsigned integers `&` and `|` combine the bits in two's complement. A shift
by less than the width has as its result the integer with the residue of the product, or the
quotient rounded down, so that both shifts together round down to a multiple. Any other count is
refused by both shifts, with the count as a decimal. -/
theorem evalBinary_bits_as_arithmetic :
    (∀ a b : Int64, BitsAsArithmetic .int Int64.toInt FitsInt64 a b) ∧
      ∀ a b : UInt64, BitsAsArithmetic .uint uintValue FitsUInt64 a b := by
  constructor
  · intro a b
    apply shiftsResidues_int.bitsAsArithmetic
    · intro m hm
      exact ⟨hm.1, Int.lt_of_le_sub_one hm.2⟩
    · exact ⟨a &&& b, rfl, testBit_toInt_and a b⟩
    · exact ⟨a ||| b, rfl, testBit_toInt_or a b⟩
  · intro a b
    apply shiftsResidues_uint.bitsAsArithmetic
    · intro m hm
      exact ⟨hm.1, Int.lt_of_le_sub_one hm.2⟩
    · exact ⟨a &&& b, rfl, testBit_uintValue_and a b⟩
    · exact ⟨a ||| b, rfl, testBit_uintValue_or a b⟩

/-- A shift of `-7` rounds down to `-4`, one of `1` to the highest bit gives the least integer, and
the greatest unsigned count is refused as it is written. -/
theorem evalBinary_bits_at_edges :
    (∃ c : Int64, evalBinary .shiftRight (.int (-7)) (.int 1) = .ok (.int c) ∧ c.toInt = -4) ∧
    evalBinary .shiftLeft (.int 1) (.int 63) = .ok (.int Int64.minValue) ∧
    evalBinary .shiftLeft (.uint 1) (.uint 18446744073709551615) =
      .error (.shiftOutOfRange "18446744073709551615") := by
  obtain ⟨hint, huint⟩ := evalBinary_bits_as_arithmetic
  refine ⟨?_, ?_, ?_⟩
  · obtain ⟨c, heval, hfloor, -⟩ := (hint (-7) 1).shiftRight 1 rfl (by decide)
    refine ⟨c, heval, hfloor.trans ?_⟩
    have hseven : Int64.toInt (-7) = -7 := rfl
    rw [hseven]
    norm_num
  · obtain ⟨c, heval, hresidue, -⟩ := (hint 1 63).shiftLeft 63 rfl (by decide)
    have hleast : Int64.minValue = c := (hresidue _).mp (by decide)
    rw [heval, hleast]
  · exact (huint 1 18446744073709551615).outOfRange (by decide) .shiftLeft (.inl rfl)

end FieldPredicate
