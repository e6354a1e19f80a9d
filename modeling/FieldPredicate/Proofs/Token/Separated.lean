import FieldPredicate.Proofs.Token.Spacing

/-!
# Lexemes that are kept apart

Printed expressions put a blank, a parenthesis or a period behind every name, literal and binary
operator. None of them continues what stands before it, so the scanner takes the printed lexemes
one by one.
-/

namespace FieldPredicate.Token

/-- The text is empty or starts with a blank, a closing parenthesis or a period. -/
def Separated (rest : List Char) : Prop :=
  ∀ c, rest.head? = some c → c = ' ' ∨ c = ')' ∨ c = '.'

theorem separated_nil : Separated [] := by
  intro c hhead
  cases hhead

theorem separated_cons {c : Char} (h : c = ' ' ∨ c = ')' ∨ c = '.') (rest : List Char) :
    Separated (c :: rest) := by
  intro d hhead
  cases hhead
  exact h

section Separated

variable {rest : List Char} {kind : TokenKind} {text : List Char}

theorem Separated.breaks (h : Separated rest) : ∀ c, rest.head? = some c → Breaks c := by
  intro c hhead
  rcases h c hhead with rfl | hpunctuation
  · exact breaks_of_isBlank rfl
  · exact breaks_of_punctuation hpunctuation

/-- The kinds of names and literals. -/
def isWord (kind : TokenKind) : Prop :=
  kind = .symbol ∨ kind = .string ∨ kind = .integer

theorem not_isWord_of_spelling (h : (text, kind) ∈ spellings) : ¬ isWord kind := by
  have hall : ∀ entry ∈ spellings,
      ¬ (entry.2 = .symbol ∨ entry.2 = .string ∨ entry.2 = .integer) := by
    decide
  exact hall _ h

theorem head_of_isWord (h : Lexeme kind text) (hkind : isWord kind) :
    ∃ c tail, text = c :: tail ∧ opensText c = true := by
  cases h with
  | spelling hmem => exact absurd hkind (not_isWord_of_spelling hmem)
  | placeholder => exact ⟨_, _, rfl, by decide⟩
  | symbol hletter _ => exact ⟨_, _, rfl, by simp [opensText, hletter]⟩
  | string _ => exact ⟨_, _, rfl, by decide⟩
  | digit hdigit => exact ⟨_, _, rfl, by simp [opensText, hdigit]⟩
  | decimal hdigit _ _ => exact ⟨_, _, rfl, by simp [opensText, hdigit]⟩
  | octal _ => exact ⟨_, _, rfl, by decide⟩
  | based _ _ => exact ⟨_, _, rfl, by decide⟩

theorem isBlank_of_opensText {c : Char} (h : opensText c = true) : Text.isBlank c = false := by
  cases hblank : Text.isBlank c with
  | false => rfl
  | true =>
      simp only [Text.isBlank, Bool.or_eq_true, decide_eq_true_eq] at hblank
      rcases hblank with (((rfl | rfl) | rfl) | rfl) | rfl <;> exact absurd h (by decide)

/-! ## Printed tokens one by one -/

theorem all_cons {cs : List Char} {token : Token} (h : next cs = (token, rest))
    (htoken : token.isTerminal = false) : all cs = token :: all rest := by
  rw [all_eq, h, if_neg (by simp [htoken])]

theorem all_word (h : Lexeme kind text) (hrest : Separated rest) :
    all (text ++ rest) = ⟨kind, String.ofList text⟩ :: all rest :=
  all_lexeme h hrest.breaks

@[simp] theorem all_blank (rest : List Char) : all (' ' :: rest) = all rest := by
  have hnext : next (' ' :: rest) = next rest := rfl
  rw [all_eq, hnext, ← all_eq]

@[simp] theorem all_leftParen (rest : List Char) :
    all ('(' :: rest) = ⟨.leftParen, "("⟩ :: all rest :=
  all_cons rfl rfl

@[simp] theorem all_rightParen (rest : List Char) :
    all (')' :: rest) = ⟨.rightParen, ")"⟩ :: all rest :=
  all_cons rfl rfl

@[simp] theorem all_period (rest : List Char) : all ('.' :: rest) = ⟨.period, "."⟩ :: all rest :=
  all_cons rfl rfl

/-- The one operator before an operand that is the beginning of another spelling. -/
theorem next_not (h : rest.head? ≠ some '=') : next ('!' :: rest) = (⟨.not, "!"⟩, rest) := by
  have hfind : spellings.find? (fun entry => entry.1.isPrefixOf ('!' :: rest)) =
      some (['!'], .not) := by
    cases rest with
    | nil => decide
    | cons c rest =>
        have hc : c ≠ '=' := by simpa using h
        have hne : ('=' == c) = false := beq_eq_false_iff_ne.mpr hc.symm
        simp [spellings, List.find?, List.isPrefixOf, hne]
  have hlexeme : lexeme (['!'] ++ rest) = (.not, ['!'].length) := by
    rw [List.singleton_append, lexeme, hfind]
  exact take_of_lexeme hlexeme

end Separated

end FieldPredicate.Token
