import FieldPredicate.Numeral.Literal
import FieldPredicate.Proofs.Token.Separated
import Mathlib.Data.Nat.Digits.Defs

/-!
# What integer literals denote

A literal names its radix by how it begins, and its digits denote a number in that radix. The
decoder splits every integer token into the same radix and a run of digits, and reading the digits
from the left adds up to their positional value. So a token has no value only if its number is too
large.
-/

namespace FieldPredicate

namespace Literal

/-- The radix that a literal names by its first characters. -/
def namedRadix : List Char → Radix
  | '0' :: 'b' :: _ | '0' :: 'B' :: _ => .binary
  | '0' :: 'o' :: _ | '0' :: 'O' :: _ => .octal
  | '0' :: 'h' :: _ | '0' :: 'H' :: _ => .hexadecimal
  | '0' :: _ :: _ => .octal
  | _ => .decimal

def digits (text : List Char) : List Char :=
  (if opensRadix text then text.drop 2 else text).filter (· ≠ '_')

/-- The place of a digit among all digits, whose letters count in either case. -/
def worth (c : Char) : Nat :=
  "0123456789abcdef".toList.idxOf c.toLower

/-- The number that digits denote by their places, the last one standing for ones. -/
def positional (base : Nat) (cs : List Char) : Nat :=
  Nat.ofDigits base (cs.map worth).reverse

def denoted (text : List Char) : Nat :=
  positional (namedRadix text).base (digits text)

/-! ## The digits of a radix -/

@[simp] theorem worth_zero : worth '0' = 0 := by
  decide

theorem digitValue?_hexadecimal {base d : Nat} {c : Char} (hbase : base ≤ 16)
    (h : digitValue? base c = some d) : digitValue? 16 c = some d := by
  simp only [digitValue?] at h ⊢
  grind

theorem eq_worth {base d : Nat} {c : Char} (hbase : base ≤ 16)
    (h : digitValue? base c = some d) : d = worth c := by
  have hall : ∀ n < 128, ∀ d < 16,
      digitValue? 16 (Char.ofNat n) = some d → d = worth (Char.ofNat n) := by
    decide
  have hhex := digitValue?_hexadecimal hbase h
  have hd : d < 16 := lt_of_digitValue? hhex
  have hascii : c.toNat < 128 := toNat_lt_of_digitValue? hhex
  rw [← Char.ofNat_toNat c] at hhex ⊢
  exact hall _ hascii d hd hhex

theorem digitValue?_eq_worth {radix : Radix} {c : Char} (h : radix.isDigit c = true) :
    digitValue? radix.base c = some (worth c) := by
  have hbase : radix.base ≤ 16 := by cases radix <;> decide
  obtain ⟨d, hd⟩ := Option.isSome_iff_exists.mp h
  rw [hd, eq_worth hbase hd]

theorem worth_lt {radix : Radix} {c : Char} (h : radix.isDigit c = true) :
    worth c < radix.base :=
  lt_of_digitValue? (digitValue?_eq_worth h)

/-! ## Reading digits from the left -/

section Reading

variable {radix : Radix} {cs : List Char}

theorem positional_cons (base : Nat) (c : Char) (rest : List Char) :
    positional base (c :: rest) = worth c * base ^ rest.length + positional base rest := by
  rw [positional, List.map_cons, Nat.ofDigits_reverse_cons, List.length_map, positional]
  ring

theorem magnitude?_eq_positional (h : ∀ c ∈ cs, radix.isDigit c = true) (read : Nat) :
    magnitude? radix.base read cs =
      some (read * radix.base ^ cs.length + positional radix.base cs) := by
  induction cs generalizing read with
  | nil => simp [magnitude?, positional]
  | cons c rest ih =>
      obtain ⟨hhead, hrest⟩ := List.forall_mem_cons.mp h
      rw [magnitude?, digitValue?_eq_worth hhead]
      calc magnitude? radix.base (read * radix.base + worth c) rest
          = some ((read * radix.base + worth c) * radix.base ^ rest.length +
              positional radix.base rest) := ih hrest _
        _ = some (read * radix.base ^ (c :: rest).length +
              positional radix.base (c :: rest)) := by
            rw [positional_cons, List.length_cons, pow_succ]
            congr 1
            ring

theorem number?_eq_positional (hne : cs ≠ []) (h : ∀ c ∈ cs, radix.isDigit c = true) :
    number? radix.base cs = some (positional radix.base cs : Int) := by
  obtain ⟨c, rest, rfl⟩ := List.exists_cons_of_ne_nil hne
  have hhead : radix.isDigit c = true := h c List.mem_cons_self
  have hminus : c ≠ '-' := ne_of_holds hhead (by cases radix <;> decide)
  have hplus : c ≠ '+' := ne_of_holds hhead (by cases radix <;> decide)
  have hnumber : number? radix.base (c :: rest) =
      (natural? radix.base (c :: rest)).map Int.ofNat := by
    simp [number?, hminus, hplus]
  rw [hnumber, natural?, magnitude?_eq_positional h 0, Nat.zero_mul, Nat.zero_add]
  · rfl
  · exact hne

end Reading

theorem map_toInt_fitInt64? (n : Nat) :
    (fitInt64? n).map Int64.toInt = if n < 2 ^ 63 then some (n : Int) else none := by
  have hmax : Int64.maxValue.toInt = 2 ^ 63 - 1 := Int64.toInt_maxValue
  have hmin : Int64.minValue.toInt = -2 ^ 63 := Int64.toInt_minValue
  rw [fitInt64?, hmax, hmin]
  split
  · rename_i hfits
    have hlt : n < 2 ^ 63 := by omega
    rw [if_pos hlt, Option.map_some, Int64.toInt_ofInt_of_le hfits.1 (by omega)]
  · rename_i hlarge
    have hge : ¬ n < 2 ^ 63 := by omega
    rw [if_neg hge, Option.map_none]

end Literal

/-! ## Integer tokens -/

open Literal

theorem DigitRun.filter_underscore {radix : Radix} {run : List Char} (h : DigitRun radix run) :
    run.filter (· ≠ '_') ≠ [] ∧ ∀ c ∈ run.filter (· ≠ '_'), radix.isDigit c = true := by
  induction h with
  | digit hdigit => simp [Radix.ne_underscore_of_isDigit hdigit, hdigit]
  | separated hdigit => simp [Radix.ne_underscore_of_isDigit hdigit, hdigit]
  | append _ _ ihl ihr =>
      rw [List.filter_append]
      refine ⟨List.append_ne_nil_of_left_ne_nil ihl.1 _, ?_⟩
      intro c hmem
      rcases List.mem_append.mp hmem with hmem | hmem
      · exact ihl.2 c hmem
      · exact ihr.2 c hmem

@[simp] theorem Literal.namedRadix_zero (c : Char) (rest : List Char) :
    namedRadix ('0' :: c :: rest) = (Radix.ofMarker? c).getD .octal := by
  unfold namedRadix Radix.ofMarker?
  split <;> simp_all

theorem Literal.namedRadix_of_ne_zero {c : Char} (hzero : c ≠ '0') (rest : List Char) :
    namedRadix (c :: rest) = .decimal := by
  unfold namedRadix
  split <;> simp_all

/-- The decoder finds the named radix and a run of its digits, which are the digits of the literal
but for the zero that marks octal ones. -/
structure Literal.Decomposes (text run : List Char) : Prop where
  isRun : DigitRun (namedRadix text) run
  split_eq : Literal.split text = (namedRadix text, run)
  digits_eq : digits text = run.filter (· ≠ '_') ∨ digits text = '0' :: run.filter (· ≠ '_')

section Decomposes

variable {c : Char} {run : List Char}

theorem Literal.decomposes_decimal (hzero : c ≠ '0') (hrun : DigitRun .decimal (c :: run)) :
    Decomposes (c :: run) (c :: run) := by
  have hradix : namedRadix (c :: run) = .decimal := Literal.namedRadix_of_ne_zero hzero run
  have hsplit : Literal.split (c :: run) = (.decimal, c :: run) := by
    unfold Literal.split
    split <;> simp_all
  have hdigits : Literal.digits (c :: run) = (c :: run).filter (· ≠ '_') := by
    rw [Literal.digits, if_neg (by simp [opensRadix, hzero])]
  rw [← hradix] at hrun hsplit
  exact ⟨hrun, hsplit, .inl hdigits⟩

theorem Literal.decomposes_octal (hrun : DigitRun .octal run) : Decomposes ('0' :: run) run := by
  obtain ⟨c, hhead, hc⟩ := hrun.head?_cases
  obtain ⟨tail, rfl⟩ := List.head?_eq_some_iff.mp hhead
  have hmarker : Radix.ofMarker? c = none := Radix.ofMarker?_eq_none_of_isDigit hc
  have hradix : namedRadix ('0' :: c :: tail) = .octal := by
    rw [Literal.namedRadix_zero, hmarker, Option.getD_none]
  have hsplit : Literal.split ('0' :: c :: tail) = (.octal, c :: tail) := by
    simp [Literal.split, hmarker]
  have hdigits : Literal.digits ('0' :: c :: tail) = '0' :: (c :: tail).filter (· ≠ '_') := by
    rw [Literal.digits, if_neg (by simp [opensRadix, hmarker]),
      List.filter_cons_of_pos (by decide)]
  rw [← hradix] at hrun hsplit
  exact ⟨hrun, hsplit, .inr hdigits⟩

theorem Literal.decomposes_based {radix : Radix} (hmarker : Radix.ofMarker? c = some radix)
    (hrun : DigitRun radix run) : Decomposes ('0' :: c :: run) run := by
  have hradix : namedRadix ('0' :: c :: run) = radix := by
    rw [Literal.namedRadix_zero, hmarker, Option.getD_some]
  have hsplit : Literal.split ('0' :: c :: run) = (radix, run) := by
    simp [Literal.split, hmarker]
  have hdigits : Literal.digits ('0' :: c :: run) = run.filter (· ≠ '_') := by
    rw [Literal.digits, if_pos (by simp [opensRadix, hmarker])]
    rfl
  rw [← hradix] at hrun hsplit
  exact ⟨hrun, hsplit, .inl hdigits⟩

theorem Lexeme.decomposes {text : List Char} (h : Lexeme .integer text) :
    ∃ run, Decomposes text run := by
  cases h with
  | spelling hmem => exact absurd (.inr (.inr rfl)) (Token.not_isWord_of_spelling hmem)
  | @digit c hdigit =>
      by_cases hzero : c = '0'
      · subst hzero
        exact ⟨['0'], .digit hdigit, rfl, .inl rfl⟩
      · exact ⟨_, Literal.decomposes_decimal hzero (.digit hdigit)⟩
  | decimal hdigit hzero hrun =>
      exact ⟨_, Literal.decomposes_decimal hzero (.append (.digit hdigit) hrun)⟩
  | octal hrun => exact ⟨_, Literal.decomposes_octal hrun⟩
  | based hmarker hrun => exact ⟨_, Literal.decomposes_based hmarker hrun⟩

end Decomposes

theorem Literal.positional_zero_cons (base : Nat) (cs : List Char) :
    positional base ('0' :: cs) = positional base cs := by
  rw [positional_cons, worth_zero, Nat.zero_mul, Nat.zero_add]

theorem Literal.Decomposes.denoted_eq {text run : List Char} (h : Decomposes text run) :
    denoted text = positional (namedRadix text).base (run.filter (· ≠ '_')) := by
  rw [denoted]
  rcases h.digits_eq with hdigits | hdigits
  · rw [hdigits]
  · rw [hdigits, Literal.positional_zero_cons]

theorem Literal.Decomposes.map_toInt_decode {text : String} {run : List Char}
    (h : Decomposes text.toList run) :
    (decode text).map Int64.toInt =
      if denoted text.toList < 2 ^ 63 then .ok (denoted text.toList : Int)
      else .error (.literalTooLarge text) := by
  obtain ⟨hne, hdigits⟩ := h.isRun.filter_underscore
  have hfits := map_toInt_fitInt64? (denoted text.toList)
  rw [h.denoted_eq] at hfits ⊢
  rw [decode, h.split_eq]
  simp only [number?_eq_positional hne hdigits, Option.bind_some]
  split at hfits
  · rename_i hlt
    obtain ⟨n, hn, hvalue⟩ := Option.map_eq_some_iff.mp hfits
    rw [if_pos hlt, hn, ← hvalue]
    rfl
  · rename_i hlarge
    rw [if_neg hlarge, Option.map_eq_none_iff.mp hfits]
    rfl

/-- Every integer token has digits, all of its radix, and is decoded to their positional value
unless that does not fit, in which case the error names the token. -/
theorem decode_eq_denoted {source : String} {token : Token} (hmem : token ∈ tokenize source)
    (hkind : token.kind = .integer) :
    digits token.text.toList ≠ [] ∧
      (∀ c ∈ digits token.text.toList, worth c < (namedRadix token.text.toList).base) ∧
      (decode token.text).map Int64.toInt =
        if denoted token.text.toList < 2 ^ 63 then .ok (denoted token.text.toList : Int)
        else .error (.literalTooLarge token.text) := by
  have hterminal : token.isTerminal = false := by
    simp [Token.isTerminal, hkind, TokenKind.isTerminal]
  have hlexeme : Lexeme token.kind token.text.toList :=
    lexeme_of_splits (splits_all source.toList) hmem hterminal
  rw [hkind] at hlexeme
  obtain ⟨run, hrun⟩ := hlexeme.decomposes
  obtain ⟨hne, hall⟩ := hrun.isRun.filter_underscore
  have hdecode := hrun.map_toInt_decode
  rcases hrun.digits_eq with hdigits | hdigits
  · rw [hdigits]
    refine ⟨hne, ?_, hdecode⟩
    intro c hc
    exact worth_lt (hall c hc)
  · rw [hdigits]
    refine ⟨List.cons_ne_nil _ _, ?_, hdecode⟩
    intro c hc
    rcases List.mem_cons.mp hc with rfl | hc
    · rw [worth_zero]
      cases namedRadix token.text.toList <;> decide
    · exact worth_lt (hall c hc)

/-- Digits of either case behind an underscore, in `0h_fF`. -/
theorem decode_hexadecimal_mixed_case :
    ⟨.integer, "0h_fF"⟩ ∈ tokenize "x < 0h_fF" ∧ (decode "0h_fF").map Int64.toInt = .ok 255 := by
  have hmem : ⟨.integer, "0h_fF"⟩ ∈ tokenize "x < 0h_fF" := by decide +kernel
  refine ⟨hmem, ?_⟩
  have hdecode := (decode_eq_denoted hmem rfl).2.2
  have hvalue : denoted "0h_fF".toList = 255 := by decide
  rw [hvalue] at hdecode
  exact hdecode

end FieldPredicate
