import Mathlib.Data.String.Basic

/-!
# The order of texts

Texts are ordered by their code points, the first difference deciding. Their bytes in UTF-8 have
the same order: a longer encoding has a greater lead byte, and encodings of one length hold the
digits of the code point to the base 64, the most significant one first. So two characters differ
in a byte that both encodings have, and what follows them cannot change the answer.
-/

namespace FieldPredicate.Text

def codePoints (text : String) : List Nat := text.toList.map Char.toNat

/-- The bytes of a text in UTF-8. -/
def utf8 (text : String) : List UInt8 := text.toUTF8.data.toList

theorem utf8_eq (text : String) : utf8 text = text.toList.flatMap String.utf8EncodeChar := by
  obtain ⟨cs, rfl⟩ := text.exists_eq_ofList
  rw [utf8, String.toUTF8_eq_toByteArray, String.toByteArray_ofList, List.utf8Encode,
    List.toList_data_toByteArray, String.toList_ofList]

/-! ## Words that differ in a byte of both -/

/-- The first word is smaller at the first difference, which both words have. -/
inductive Below : List UInt8 → List UInt8 → Prop
  | here {a b : UInt8} {as bs : List UInt8} : a < b → Below (a :: as) (b :: bs)
  | after {a : UInt8} {as bs : List UInt8} : Below as bs → Below (a :: as) (a :: bs)

theorem Below.append {as bs : List UInt8} (xs ys : List UInt8) (h : Below as bs) :
    Below (as ++ xs) (bs ++ ys) := by
  induction h with
  | here hab => exact .here hab
  | after _ ih => exact .after ih

theorem Below.lt {as bs : List UInt8} (h : Below as bs) : as < bs := by
  induction h with
  | here hab => exact .rel hab
  | after _ ih => exact .cons ih

/-! ## The encoding of a character as digits -/

/-- The last `count` bytes of an encoding, with six bits of the code point each. -/
def continuation (v : Nat) : Nat → List UInt8
  | 0 => []
  | count + 1 => UInt8.ofNat (v / 64 ^ count % 64 + 0x80) :: continuation v count

/-- The number of bytes behind the lead byte. -/
def trailing (v : Nat) : Nat :=
  if v ≤ 0x7f then 0 else if v ≤ 0x7ff then 1 else if v ≤ 0xffff then 2 else 3

/-- What a lead byte adds to the first bits of the code point to tell how many bytes follow. -/
def leadMark : Nat → Nat
  | 0 => 0
  | 1 => 0xc0
  | 2 => 0xe0
  | _ => 0xf0

def lead (v : Nat) : Nat := v / 64 ^ trailing v + leadMark (trailing v)

theorem div_lt_or_mod_lt {v w : Nat} (n : Nat) (h : v < w) :
    v / n < w / n ∨ v / n = w / n ∧ v % n < w % n := by
  rcases Nat.lt_or_eq_of_le (Nat.div_le_div_right (c := n) h.le) with hdiv | hdiv
  · exact .inl hdiv
  · have hv := Nat.div_add_mod v n
    have hw := Nat.div_add_mod w n
    rw [hdiv] at hv
    exact .inr ⟨hdiv, by omega⟩

theorem below_continuation {v w count : Nat} (h : v % 64 ^ count < w % 64 ^ count) :
    Below (continuation v count) (continuation w count) := by
  induction count with
  | zero =>
      rw [pow_zero, Nat.mod_one, Nat.mod_one] at h
      exact absurd h (Nat.lt_irrefl 0)
  | succ count ih =>
      have hdigits := div_lt_or_mod_lt (64 ^ count) h
      rw [pow_succ, Nat.mod_mul_right_div_self, Nat.mod_mul_right_div_self,
        Nat.mod_mul_right_mod, Nat.mod_mul_right_mod] at hdigits
      rcases hdigits with hlt | ⟨heq, hrest⟩
      · refine .here ((UInt8.ofNat_lt_iff_lt ?_ ?_).mpr (Nat.add_lt_add_right hlt 0x80))
        all_goals
          rw [UInt8.size]
          omega
      · rw [continuation, continuation, heq]
        exact .after (ih hrest)

theorem codePoint_lt (c : Char) : c.toNat < 0x110000 := by
  rcases c.valid with h | ⟨-, h⟩
  · exact h.trans (by decide)
  · exact h

theorem utf8EncodeChar_eq (c : Char) :
    String.utf8EncodeChar c =
      UInt8.ofNat (lead c.toNat) :: continuation c.toNat (trailing c.toNat) := by
  fun_cases String.utf8EncodeChar c with
  | case1 v h =>
      have htrailing : trailing c.toNat = 0 := if_pos h
      simp [lead, htrailing, leadMark, continuation, v]
  | case2 v h h' =>
      have htrailing : trailing c.toNat = 1 := (if_neg h).trans (if_pos h')
      have hfirst : c.toNat / 64 % 32 = c.toNat / 64 :=
        Nat.mod_eq_of_lt (Nat.div_lt_of_lt_mul (Nat.lt_succ_of_le h'))
      simp [lead, htrailing, leadMark, continuation, hfirst, v]
  | case3 v h h' h'' =>
      have htrailing : trailing c.toNat = 2 :=
        (if_neg h).trans ((if_neg h').trans (if_pos h''))
      have hfirst : c.toNat / 4096 % 16 = c.toNat / 4096 :=
        Nat.mod_eq_of_lt (Nat.div_lt_of_lt_mul (Nat.lt_succ_of_le h''))
      simp [lead, htrailing, leadMark, continuation, hfirst, v]
  | case4 v h h' h'' =>
      have htrailing : trailing c.toNat = 3 :=
        (if_neg h).trans ((if_neg h').trans (if_neg h''))
      have hfirst : c.toNat / 262144 % 8 = c.toNat / 262144 :=
        Nat.mod_eq_of_lt (Nat.div_lt_of_lt_mul ((codePoint_lt c).trans (by decide)))
      simp [lead, htrailing, leadMark, continuation, hfirst, v]

theorem lead_lt_size {v : Nat} (h : v < 0x110000) : lead v < UInt8.size := by
  unfold lead trailing
  split_ifs <;> simp only [leadMark, UInt8.size] <;> omega

theorem lead_lt_of_trailing_ne {v w : Nat} (h : v < w) (hne : trailing v ≠ trailing w) :
    lead v < lead w := by
  unfold lead
  unfold trailing at hne ⊢
  split_ifs at hne ⊢ <;> simp only [leadMark] <;> omega

/-- A greater code point has a greater lead byte, or the same one and greater digits behind it. -/
theorem lead_lt_or_eq {v w : Nat} (h : v < w) :
    lead v < lead w ∨ lead v = lead w ∧ trailing v = trailing w ∧
      v % 64 ^ trailing w < w % 64 ^ trailing w := by
  by_cases htrailing : trailing v = trailing w
  · rw [lead, lead, htrailing]
    rcases div_lt_or_mod_lt (64 ^ trailing w) h with hdiv | ⟨hdiv, hmod⟩
    · exact .inl (Nat.add_lt_add_right hdiv _)
    · exact .inr ⟨by rw [hdiv], rfl, hmod⟩
  · exact .inl (lead_lt_of_trailing_ne h htrailing)

theorem below_utf8EncodeChar {c d : Char} (h : c < d) :
    Below (String.utf8EncodeChar c) (String.utf8EncodeChar d) := by
  rw [utf8EncodeChar_eq, utf8EncodeChar_eq]
  rcases lead_lt_or_eq (v := c.toNat) (w := d.toNat) h with hlt | ⟨heq, htrailing, hdigits⟩
  · exact .here ((UInt8.ofNat_lt_iff_lt (lead_lt_size (codePoint_lt c))
      (lead_lt_size (codePoint_lt d))).mpr hlt)
  · rw [heq, htrailing]
    exact .after (below_continuation hdigits)

/-! ## The order of texts by their code points and by their bytes -/

theorem flatMap_utf8EncodeChar_lt {cs ds : List Char} (h : cs < ds) :
    cs.flatMap String.utf8EncodeChar < ds.flatMap String.utf8EncodeChar := by
  induction h with
  | nil =>
      rw [List.flatMap_nil, List.flatMap_cons, utf8EncodeChar_eq]
      exact .nil
  | rel hlt => exact ((below_utf8EncodeChar hlt).append _ _).lt
  | cons _ ih => exact List.append_left_lt ih

/-- What keeps the order of characters reflects it. -/
theorem lt_iff_of_mono {α : Type} [LT α] [Std.Irrefl (α := α) (· < ·)]
    [Std.Asymm (α := α) (· < ·)] {f : List Char → List α}
    (hmono : ∀ cs ds, cs < ds → f cs < f ds) {cs ds : List Char} : f cs < f ds ↔ cs < ds := by
  refine ⟨?_, hmono cs ds⟩
  intro h
  rcases lt_trichotomy cs ds with hlt | rfl | hgt
  · exact hlt
  · exact absurd h (List.lt_irrefl _)
  · exact absurd h (List.lt_asymm (hmono ds cs hgt))

section Texts

variable {s t : String}

theorem codePoints_lt_iff : codePoints s < codePoints t ↔ s < t := by
  rw [String.lt_iff_toList_lt]
  apply lt_iff_of_mono (f := List.map Char.toNat)
  intro cs ds
  exact List.map_lt fun c d hcd => hcd

theorem utf8_lt_iff : utf8 s < utf8 t ↔ s < t := by
  rw [utf8_eq, utf8_eq, String.lt_iff_toList_lt]
  exact lt_iff_of_mono fun _ _ => flatMap_utf8EncodeChar_lt

theorem append_lt_append_iff (p : String) : p ++ s < p ++ t ↔ s < t := by
  rw [String.lt_iff_toList_lt, String.lt_iff_toList_lt, String.toList_append, String.toList_append]
  induction p.toList with
  | nil => rfl
  | cons c cs ih => rw [List.cons_append, List.cons_append, List.cons_lt_cons_self, ih]

theorem le_append (s t : String) : s ≤ s ++ t := by
  rw [← String.not_lt, String.lt_iff_toList_lt, String.toList_append, List.not_lt]
  exact List.le_append_left

end Texts

end FieldPredicate.Text
