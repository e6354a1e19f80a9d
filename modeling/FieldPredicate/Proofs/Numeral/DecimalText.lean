import FieldPredicate.Proofs.Numeral.LiteralValue

/-!
# Decimal text of numbers

A number is written in decimal digits without a leading zero, so the text is an integer literal of
no other radix, and it denotes the number. Only a number that is too large is refused when the text
is decoded.
-/

namespace FieldPredicate

/-! ## Decimal digits -/

theorem isDigit_of_mem_toDigits {n : Nat} {c : Char} (h : c ∈ Nat.toDigits 10 n) :
    Radix.decimal.isDigit c = true := by
  have hdigit : c.isDigit = true := Nat.isDigit_of_mem_toDigits (by decide) (by decide) h
  rw [Radix.isDigit_decimal_iff]
  simpa [Char.isDigit, UInt32.le_iff_toNat_le] using hdigit

theorem exists_toDigits_eq_cons {n : Nat} (h : 0 < n) :
    ∃ c rest, Nat.toDigits 10 n = c :: rest ∧ c ≠ '0' := by
  induction n using Nat.strongRecOn with
  | _ n ih =>
      rcases Nat.lt_or_ge n 10 with hlt | hge
      · have hall : ∀ d < 10, 0 < d → d.digitChar ≠ '0' := by decide
        exact ⟨n.digitChar, [], Nat.toDigits_of_lt_base hlt, hall n hlt h⟩
      · obtain ⟨c, rest, hcons, hzero⟩ := ih (n / 10) (by omega) (by omega)
        refine ⟨c, rest ++ [(n % 10).digitChar], ?_, hzero⟩
        rw [Nat.toDigits_of_base_le (by decide) hge, hcons, List.cons_append]

theorem digitRun_of_isDigit {radix : Radix} {c : Char} {rest : List Char}
    (h : ∀ d ∈ c :: rest, radix.isDigit d = true) : DigitRun radix (c :: rest) := by
  induction rest generalizing c with
  | nil => exact .digit (h c List.mem_cons_self)
  | cons d rest ih =>
      obtain ⟨hc, hrest⟩ := List.forall_mem_cons.mp h
      have hfirst : DigitRun radix [c] := .digit hc
      exact hfirst.append (ih hrest)

namespace Literal

theorem positional_append_digit (base : Nat) (cs : List Char) (c : Char) :
    positional base (cs ++ [c]) = worth c + base * positional base cs := by
  simp [positional, Nat.ofDigits_cons]

theorem worth_digitChar {d : Nat} (h : d < 10) : worth d.digitChar = d := by
  have hall : ∀ d < 10, worth d.digitChar = d := by decide
  exact hall d h

@[simp] theorem positional_toDigits (n : Nat) : positional 10 (Nat.toDigits 10 n) = n := by
  induction n using Nat.strongRecOn with
  | _ n ih =>
      rcases Nat.lt_or_ge n 10 with hlt | hge
      · rw [Nat.toDigits_of_lt_base hlt, ← List.nil_append [n.digitChar], positional_append_digit,
          worth_digitChar hlt]
        simp [positional]
      · rw [Nat.toDigits_of_base_le (by decide) hge, positional_append_digit,
          worth_digitChar (Nat.mod_lt n (by decide)), ih (n / 10) (by omega)]
        omega

end Literal

/-! ## Decimal text is a literal -/

theorem lexeme_toDigits (n : Nat) : Lexeme .integer (Nat.toDigits 10 n) := by
  rcases Nat.eq_zero_or_pos n with rfl | hpos
  · exact .digit (by decide)
  · obtain ⟨c, rest, hcons, hzero⟩ := exists_toDigits_eq_cons hpos
    have hdigits : ∀ d ∈ c :: rest, Radix.decimal.isDigit d = true := by
      intro d hmem
      exact isDigit_of_mem_toDigits (hcons ▸ hmem)
    obtain ⟨hc, hrest⟩ := List.forall_mem_cons.mp hdigits
    rw [hcons]
    cases rest with
    | nil => exact .digit hc
    | cons d rest => exact .decimal hc hzero (digitRun_of_isDigit hrest)

namespace Literal

@[simp] theorem denoted_toDigits (n : Nat) : denoted (Nat.toDigits 10 n) = n := by
  rcases Nat.eq_zero_or_pos n with rfl | hpos
  · decide
  · obtain ⟨c, rest, hcons, hzero⟩ := exists_toDigits_eq_cons hpos
    have hplain : (Nat.toDigits 10 n).filter (· ≠ '_') = Nat.toDigits 10 n := by
      rw [List.filter_eq_self]
      intro d hmem
      simpa using Radix.ne_underscore_of_isDigit (isDigit_of_mem_toDigits hmem)
    have hdigits : digits (Nat.toDigits 10 n) = Nat.toDigits 10 n := by
      rw [digits, if_neg, hplain]
      rw [hcons]
      simp [opensRadix, hzero]
    have hradix : namedRadix (Nat.toDigits 10 n) = .decimal := by
      rw [hcons]
      exact namedRadix_of_ne_zero hzero rest
    rw [denoted, hradix, hdigits]
    exact positional_toDigits n

theorem eq_of_repr_eq {m n : Nat} (h : Nat.repr m = Nat.repr n) : m = n := by
  have hdigits : Nat.toDigits 10 m = Nat.toDigits 10 n := by
    rw [← Nat.toList_repr, h, Nat.toList_repr]
  rw [← denoted_toDigits m, hdigits, denoted_toDigits]

/-- A minus is no digit, so equal texts have one sign. -/
theorem eq_of_intRepr_eq {m n : Int} (h : Int.repr m = Int.repr n) : m = n := by
  have hsign : ∀ k l : Nat, Nat.repr k ≠ "-" ++ Nat.repr l := by
    intro k l heq
    have hmem : '-' ∈ Nat.toDigits 10 k := by
      rw [← Nat.toList_repr, heq]
      simp
    have hdigit := Nat.isDigit_of_mem_toDigits (by decide) (by decide) hmem
    exact absurd hdigit (by decide)
  rw [Int.repr_eq_if, Int.repr_eq_if] at h
  split at h <;> split at h
  · have hnat := eq_of_repr_eq h
    omega
  · exact absurd h (hsign _ _)
  · exact absurd h.symm (hsign _ _)
  · have hdigits : Nat.repr (-m).toNat = Nat.repr (-n).toNat := by
      simpa [← String.toList_inj] using h
    have hnat := eq_of_repr_eq hdigits
    omega

theorem map_toInt_decode_repr (n : Nat) :
    (decode (Nat.repr n)).map Int64.toInt =
      if n < 2 ^ 63 then .ok (n : Int) else .error (.literalTooLarge (Nat.repr n)) := by
  have hlexeme : Lexeme .integer (Nat.repr n).toList := by
    rw [Nat.toList_repr]
    exact lexeme_toDigits n
  obtain ⟨run, hrun⟩ := hlexeme.decomposes
  have hdecode := hrun.map_toInt_decode
  rw [Nat.toList_repr, denoted_toDigits] at hdecode
  exact hdecode

/-- The decimal text of a number that fits is decoded to the number. -/
theorem decode_repr {n : Int64} {k : Nat} (h : n.toInt = k) : decode (Nat.repr k) = .ok n := by
  have hlt : k < 2 ^ 63 := by
    have hle := n.toInt_lt
    omega
  have hdecode := map_toInt_decode_repr k
  rw [if_pos hlt] at hdecode
  cases hresult : decode (Nat.repr k) with
  | error error =>
      rw [hresult] at hdecode
      cases hdecode
  | ok m =>
      rw [hresult] at hdecode
      have hvalue : m.toInt = k := Except.ok.inj hdecode
      rw [Int64.toInt_inj.mp (hvalue.trans h.symm)]

theorem decode_repr_of_ge {k : Nat} (h : 2 ^ 63 ≤ k) :
    decode (Nat.repr k) = .error (.literalTooLarge (Nat.repr k)) := by
  have hdecode := map_toInt_decode_repr k
  rw [if_neg (Nat.not_lt.mpr h)] at hdecode
  cases hresult : decode (Nat.repr k) with
  | error error =>
      rw [hresult] at hdecode
      exact congrArg Except.error (Except.error.inj hdecode)
  | ok m =>
      rw [hresult] at hdecode
      cases hdecode

end Literal

end FieldPredicate
