import FieldPredicate.Token.Lexical

/-!
# The longest run of digits

`digitRunLength` measures a run of digits that cannot be extended: every run at the start of text
adds its length to what is measured behind it, so no run is longer than what is measured, and what
is measured is a run itself unless it is empty.
-/

namespace FieldPredicate

theorem toNat_lt_of_digitValue? {base d : Nat} {c : Char} (h : digitValue? base c = some d) :
    c.toNat < 128 := by
  have hnine : c ≤ '9' ↔ c.toNat ≤ 57 := Iff.rfl
  have hlower : c ≤ 'z' ↔ c.toNat ≤ 122 := Iff.rfl
  have hupper : c ≤ 'Z' ↔ c.toNat ≤ 90 := Iff.rfl
  simp only [digitValue?, hnine, hlower, hupper] at h
  grind

@[grind →] theorem lt_of_digitValue? {base d : Nat} {c : Char} (h : digitValue? base c = some d) :
    d < base := by
  simp only [digitValue?] at h
  grind

namespace Radix

theorem toNat_lt_of_isDigit {radix : Radix} {c : Char} (h : radix.isDigit c = true) :
    c.toNat < 128 := by
  obtain ⟨d, hd⟩ := Option.isSome_iff_exists.mp h
  exact toNat_lt_of_digitValue? hd

@[simp] theorem isDigit_underscore (radix : Radix) : radix.isDigit '_' = false := by
  cases radix <;> decide

theorem ne_underscore_of_isDigit {radix : Radix} {c : Char} (h : radix.isDigit c = true) :
    c ≠ '_' := by
  rintro rfl
  rw [radix.isDigit_underscore] at h
  exact absurd h (by decide)

theorem isDigit_of_base_le {small large : Radix} {c : Char} (hle : small.base ≤ large.base)
    (h : small.isDigit c = true) : large.isDigit c = true := by
  simp only [isDigit, digitValue?] at h ⊢
  grind

theorem isDigit_decimal_iff {c : Char} :
    Radix.decimal.isDigit c = true ↔ 48 ≤ c.toNat ∧ c.toNat ≤ 57 := by
  have hzero : '0' ≤ c ↔ 48 ≤ c.toNat := Iff.rfl
  have hnine : c ≤ '9' ↔ c.toNat ≤ 57 := Iff.rfl
  have hlower : 'a' ≤ c ↔ 97 ≤ c.toNat := Iff.rfl
  have hupper : 'A' ≤ c ↔ 65 ≤ c.toNat := Iff.rfl
  simp only [isDigit, digitValue?, base, hzero, hnine, hlower, hupper]
  grind

variable {radix : Radix} {c : Char} {rest run cs : List Char}

theorem digitRunLength_cons (hdigit : radix.isDigit c = true) :
    radix.digitRunLength (c :: rest) = radix.digitRunLength rest + 1 := by
  have hne : c ≠ '_' := ne_underscore_of_isDigit hdigit
  rw [digitRunLength.eq_2 _ _ _ fun _ _ heq => absurd heq hne]
  simp [hdigit]

theorem digitRunLength_separated (hdigit : radix.isDigit c = true) :
    radix.digitRunLength ('_' :: c :: rest) = radix.digitRunLength rest + 2 := by
  simp [digitRunLength, hdigit]

end Radix

variable {radix : Radix} {run rest cs : List Char}

/-- A run at the start of text is measured whole, and measuring goes on behind it. -/
theorem DigitRun.digitRunLength_append (h : DigitRun radix run) (rest : List Char) :
    radix.digitRunLength (run ++ rest) = run.length + radix.digitRunLength rest := by
  induction h generalizing rest with
  | digit hdigit =>
      rw [List.singleton_append, Radix.digitRunLength_cons hdigit, List.length_singleton]
      omega
  | @separated c hdigit =>
      have hlength : radix.digitRunLength ('_' :: c :: rest) = radix.digitRunLength rest + 2 :=
        Radix.digitRunLength_separated hdigit
      simp only [List.cons_append, List.nil_append, List.length_cons, List.length_nil]
      omega
  | append _ _ ihl ihr =>
      rw [List.append_assoc, ihl, ihr, List.length_append]
      omega

theorem DigitRun.length_le (h : DigitRun radix run) (hstarts : run <+: cs) :
    run.length ≤ radix.digitRunLength cs := by
  obtain ⟨rest, rfl⟩ := hstarts
  rw [h.digitRunLength_append]
  exact Nat.le_add_right _ _

theorem digitRun_take (h : 0 < radix.digitRunLength cs) :
    DigitRun radix (cs.take (radix.digitRunLength cs)) := by
  fun_induction Radix.digitRunLength radix cs with
  | case1 c rest hdigit ih =>
      rw [List.take_succ_cons, List.take_succ_cons]
      rcases Nat.eq_zero_or_pos (radix.digitRunLength rest) with hzero | hpos
      · simpa [hzero] using DigitRun.separated hdigit
      · exact .append (.separated hdigit) (ih hpos)
  | case2 => exact absurd h (Nat.lt_irrefl 0)
  | case3 c rest _ hdigit ih =>
      rw [List.take_succ_cons]
      rcases Nat.eq_zero_or_pos (radix.digitRunLength rest) with hzero | hpos
      · simpa [hzero] using DigitRun.digit hdigit
      · exact .append (.digit hdigit) (ih hpos)
  | case4 => exact absurd h (Nat.lt_irrefl 0)
  | case5 => exact absurd h (Nat.lt_irrefl 0)

/-- Nothing is measured where neither a digit comes first nor an underscore and a digit. -/
theorem digitRunLength_eq_zero_iff :
    radix.digitRunLength cs = 0 ↔
      ∀ c, radix.isDigit c = true → ¬ [c] <+: cs ∧ ¬ ['_', c] <+: cs := by
  constructor
  · intro hzero c hdigit
    have hshort : ∀ run, DigitRun radix run → run <+: cs → run = [] := by
      intro run hrun hstarts
      have hle := hrun.length_le hstarts
      exact List.length_eq_zero_iff.mp (by omega)
    exact ⟨fun hstarts => absurd (hshort _ (.digit hdigit) hstarts) (by simp),
      fun hstarts => absurd (hshort _ (.separated hdigit) hstarts) (by simp)⟩
  · intro hnone
    unfold Radix.digitRunLength
    split
    · rename_i c rest
      split
      · rename_i hdigit
        exact absurd (List.prefix_append ['_', c] rest) (hnone c hdigit).2
      · rfl
    · rename_i c rest _
      split
      · rename_i hdigit
        exact absurd (List.prefix_append [c] rest) (hnone c hdigit).1
      · rfl
    · rfl

theorem DigitRun.head?_cases (h : DigitRun radix run) :
    ∃ c, run.head? = some c ∧ (radix.isDigit c = true ∨ c = '_') := by
  induction h with
  | digit hdigit => exact ⟨_, rfl, .inl hdigit⟩
  | separated => exact ⟨_, rfl, .inr rfl⟩
  | append hleft _ ihl _ =>
      obtain ⟨c, hhead, hc⟩ := ihl
      obtain ⟨tail, rfl⟩ := List.head?_eq_some_iff.mp hhead
      exact ⟨c, rfl, hc⟩

end FieldPredicate
