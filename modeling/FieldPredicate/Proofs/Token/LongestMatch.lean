import FieldPredicate.Proofs.Numeral.DigitRun

/-!
# Text is split at its longest lexemes

The scanner finds the length of a lexeme from its first characters. Each form of lexeme is
measured on arbitrary text behind it, which bounds every lexeme at the start of text by what the
scanner takes; where the scanner takes no lexeme, the text begins none or breaks one off. Hence
the scanner and the lexical grammar split all text alike.
-/

namespace FieldPredicate

/-! ## Characters that open lexemes -/

theorem ne_of_holds {p : Char → Bool} {c d : Char} (hc : p c = true) (hd : p d = false) :
    c ≠ d := by
  rintro rfl
  rw [hc] at hd
  exact absurd hd (by decide)

theorem Text.isDigit_eq_false_of_isLetter {c : Char} (h : Text.isLetter c = true) :
    Radix.decimal.isDigit c = false := by
  rw [Bool.eq_false_iff, Ne, Radix.isDigit_decimal_iff]
  intro hdigit
  have halpha : c.isAlpha = true := by
    rw [isLetter, if_pos (by omega)] at h
    exact h
  have hdigits : ∀ n < 10, (Char.ofNat (48 + n)).isAlpha = false := by decide
  obtain ⟨n, hn, hc⟩ : ∃ n < 10, c.toNat = 48 + n := ⟨c.toNat - 48, by omega, by omega⟩
  rw [← Char.ofNat_toNat c, hc, hdigits n hn] at halpha
  exact absurd halpha (by decide)

namespace Token

/-- The character opens a lexeme that is no operator and no punctuation mark. -/
def opensText (c : Char) : Bool :=
  Text.isLetter c || Radix.decimal.isDigit c || c = '?' || c = '\x60'

theorem not_opensText_of_spelling {c : Char} {text : List Char} {kind : TokenKind}
    (h : (c :: text, kind) ∈ spellings) : opensText c = false := by
  have hall : ∀ entry ∈ spellings, (entry.1.head?.all fun c => !opensText c) = true := by
    decide
  simpa using hall _ h

theorem lexeme_of_no_spelling {c : Char} (h : ∀ text kind, (c :: text, kind) ∉ spellings)
    (rest : List Char) : lexeme (c :: rest) = openLexeme (c :: rest) := by
  have hnone : spellings.find? (fun entry => entry.1.isPrefixOf (c :: rest)) = none := by
    rw [List.find?_eq_none]
    rintro ⟨text, kind⟩ hmem hprefix
    obtain ⟨d, text, rfl⟩ := List.exists_cons_of_ne_nil (Lexeme.spelling hmem).ne_nil
    obtain ⟨rfl, -⟩ := List.cons_prefix_cons.mp (List.isPrefixOf_iff_prefix.mp hprefix)
    exact h text kind hmem
  rw [lexeme, hnone]

theorem lexeme_of_opensText {c : Char} (h : opensText c = true) (rest : List Char) :
    lexeme (c :: rest) = openLexeme (c :: rest) := by
  apply lexeme_of_no_spelling
  intro text kind hmem
  rw [not_opensText_of_spelling hmem] at h
  exact absurd h (by decide)

theorem lexeme_of_spelling {text cs : List Char} {kind : TokenKind}
    (h : (text, kind) ∈ spellings) (hstarts : text <+: cs) :
    ∃ entry ∈ spellings, entry.1 <+: cs ∧ lexeme cs = (entry.2, entry.1.length) ∧
      ∀ other ∈ spellings, other.1 <+: cs → other.1.length ≤ entry.1.length := by
  -- The first spelling that fits is found, and none behind it in the list is longer.
  have hsorted : spellings.Pairwise fun a b => b.1.length ≤ a.1.length := by decide
  cases hfind : spellings.find? (fun entry => entry.1.isPrefixOf cs) with
  | none =>
      have hnot := List.find?_eq_none.mp hfind (text, kind) h
      exact absurd (List.isPrefixOf_iff_prefix.mpr hstarts) hnot
  | some entry =>
      obtain ⟨hentry, before, after, heq, hbefore⟩ := List.find?_eq_some_iff_append.mp hfind
      refine ⟨entry, List.mem_of_find?_eq_some hfind, List.isPrefixOf_iff_prefix.mp hentry,
        by rw [lexeme, hfind], ?_⟩
      intro other hother hprefix
      rw [heq] at hother hsorted
      rcases List.mem_append.mp hother with hmem | hmem
      · have hnot := hbefore other hmem
        rw [List.isPrefixOf_iff_prefix.mpr hprefix] at hnot
        exact absurd hnot (by decide)
      · rcases List.mem_cons.mp hmem with rfl | hmem
        · exact Nat.le_refl _
        · exact (List.pairwise_cons.mp (List.pairwise_append.mp hsorted).2.1).1 other hmem

theorem kind_of_spelling {text : List Char} {a b : TokenKind} (ha : (text, a) ∈ spellings)
    (hb : (text, b) ∈ spellings) : a = b := by
  have hunique : ∀ x ∈ spellings, ∀ y ∈ spellings, x.1 = y.1 → x.2 = y.2 := by decide
  exact hunique _ ha _ hb rfl

/-! ## The forms of lexemes on arbitrary text behind them -/

section Forms

variable {c marker : Char} {radix : Radix} {body rest : List Char}

theorem lexeme_symbol (h : Text.isLetter c = true) (rest : List Char) :
    lexeme (c :: rest) = (.symbol, (rest.takeWhile isSymbolPart).length + 1) := by
  have hdigit : Radix.decimal.isDigit c = false := Text.isDigit_eq_false_of_isLetter h
  have hequal : c ≠ '=' := ne_of_holds h (by decide)
  have hplace : c ≠ '?' := ne_of_holds h (by decide)
  have hquote : c ≠ '\x60' := ne_of_holds h (by decide)
  have hzero : c ≠ '0' := ne_of_holds h (by decide)
  rw [lexeme_of_opensText (by simp [opensText, h])]
  simp [openLexeme, hequal, hplace, hquote, hzero, hdigit, h]

theorem lexeme_string (hbody : '\x60' ∉ body) (rest : List Char) :
    lexeme ('\x60' :: body ++ '\x60' :: rest) = (.string, body.length + 2) := by
  have hlength : (body ++ '\x60' :: rest).idxOf '\x60' = body.length := by
    simp [List.idxOf_append, hbody]
  rw [List.cons_append, lexeme_of_opensText (by decide)]
  simp [openLexeme, stringLexeme, hlength]

theorem lexeme_unterminated (hrest : '\x60' ∉ rest) :
    lexeme ('\x60' :: rest) = (.error .unterminatedString, rest.length + 1) := by
  rw [lexeme_of_opensText (by decide)]
  simp [openLexeme, stringLexeme, hrest]

theorem lexeme_decimal (hdigit : Radix.decimal.isDigit c = true) (hzero : c ≠ '0')
    (rest : List Char) :
    lexeme (c :: rest) = (.integer, Radix.decimal.digitRunLength rest + 1) := by
  have hequal : c ≠ '=' := ne_of_holds hdigit (by decide)
  have hplace : c ≠ '?' := ne_of_holds hdigit (by decide)
  have hquote : c ≠ '\x60' := ne_of_holds hdigit (by decide)
  rw [lexeme_of_opensText (by simp [opensText, hdigit])]
  simp [openLexeme, hequal, hplace, hquote, hzero, hdigit]

@[simp] theorem lexeme_zero (rest : List Char) : lexeme ('0' :: rest) = zeroLexeme rest :=
  rfl

theorem zeroLexeme_octal (h : ∀ c, rest.head? = some c → Radix.ofMarker? c = none) :
    zeroLexeme rest = (.integer, Radix.octal.digitRunLength rest + 1) := by
  cases rest with
  | nil => rfl
  | cons c rest => simp [zeroLexeme, h c rfl]

theorem lexeme_based (hmarker : Radix.ofMarker? marker = some radix)
    (hrest : radix.digitRunLength rest ≠ 0) :
    lexeme ('0' :: marker :: rest) = (.integer, radix.digitRunLength rest + 2) := by
  simp [zeroLexeme, hmarker, hrest]

theorem lexeme_missingDigit (hmarker : Radix.ofMarker? marker = some radix)
    (hrest : radix.digitRunLength rest = 0) :
    lexeme ('0' :: marker :: rest) = (.error (.expected radix.digitName), 2) := by
  simp [zeroLexeme, hmarker, hrest]

end Forms

end Token

/-! ## Lexemes against the scanner -/

section Lexemes

open Token

variable {kind : TokenKind} {text rest cs : List Char}

theorem Radix.ofMarker?_eq_none_of_isDigit {c : Char} (h : Radix.octal.isDigit c = true ∨ c = '_') :
    Radix.ofMarker? c = none := by
  rcases h with h | rfl
  · have hdigit : Radix.decimal.isDigit c = true := Radix.isDigit_of_base_le (by decide) h
    have hcode := Radix.isDigit_decimal_iff.mp hdigit
    unfold ofMarker?
    split <;> first | rfl | exact absurd hcode (by decide)
  · rfl

theorem DigitRun.lexeme_octal (h : DigitRun .octal text) (rest : List Char) :
    Token.lexeme ('0' :: text ++ rest) =
      (.integer, text.length + Radix.octal.digitRunLength rest + 1) := by
  obtain ⟨c, hhead, hc⟩ := h.head?_cases
  obtain ⟨tail, rfl⟩ := List.head?_eq_some_iff.mp hhead
  rw [List.cons_append, lexeme_zero, zeroLexeme_octal, h.digitRunLength_append]
  intro d hd
  cases hd
  exact Radix.ofMarker?_eq_none_of_isDigit hc

/-- Unless the scanner finds a fault, it takes at least every lexeme at the start of text. -/
theorem Lexeme.length_le (h : Lexeme kind text) (rest : List Char) :
    text.length ≤ (Token.lexeme (text ++ rest)).2 := by
  cases h with
  | spelling hmem =>
      obtain ⟨entry, _, _, hlexeme, hlongest⟩ :=
        lexeme_of_spelling hmem (List.prefix_append text rest)
      rw [hlexeme]
      exact hlongest _ hmem (List.prefix_append text rest)
  | placeholder => exact Nat.le_refl 1
  | @symbol c part hletter hpart =>
      rw [List.cons_append, lexeme_symbol hletter, List.takeWhile_append_of_pos hpart]
      simp
  | @string body hbody =>
      rw [List.append_assoc, List.singleton_append, lexeme_string hbody]
      simp
  | digit => exact lexeme_length_pos _ _
  | decimal hdigit hzero hrun =>
      rw [List.cons_append, lexeme_decimal hdigit hzero, hrun.digitRunLength_append]
      simp only [List.length_cons]
      omega
  | octal hrun =>
      rw [hrun.lexeme_octal]
      simp only [List.length_cons]
      omega
  | @based marker radix run hmarker hrun =>
      have hpos := hrun.length_le (List.prefix_append run rest)
      have hne : run.length ≠ 0 := mt List.length_eq_zero_iff.mp hrun.ne_nil
      rw [List.cons_append, List.cons_append, lexeme_based hmarker (by omega)]
      simp only [List.length_cons]
      omega

theorem Lexeme.lexeme_eq (h : Lexeme kind text) : Token.lexeme text = (kind, text.length) := by
  cases h with
  | spelling hmem =>
      obtain ⟨⟨found, kind'⟩, hentry, hprefix, hlexeme, hlongest⟩ :=
        lexeme_of_spelling hmem (List.prefix_refl text)
      have hle : text.length ≤ found.length := hlongest _ hmem (List.prefix_refl text)
      have hfound : found = text := hprefix.eq_of_length_le hle
      subst hfound
      rw [hlexeme, kind_of_spelling hentry hmem]
  | placeholder => rfl
  | @symbol c part hletter hpart =>
      have hwhole : (part ++ []).takeWhile isSymbolPart = part ++ [].takeWhile isSymbolPart :=
        List.takeWhile_append_of_pos hpart
      rw [List.append_nil, List.takeWhile_nil, List.append_nil] at hwhole
      rw [lexeme_symbol hletter, hwhole, List.length_cons]
  | @string body hbody =>
      rw [lexeme_string hbody]
      simp
  | @digit c hdigit =>
      by_cases hzero : c = '0'
      · rw [hzero]
        rfl
      · exact lexeme_decimal hdigit hzero []
  | @decimal c run hdigit hzero hrun =>
      have hlength := hrun.digitRunLength_append []
      rw [List.append_nil] at hlength
      rw [lexeme_decimal hdigit hzero, hlength]
      rfl
  | @octal run hrun =>
      have hlexeme := hrun.lexeme_octal []
      rw [List.append_nil] at hlexeme
      exact hlexeme
  | @based marker radix run hmarker hrun =>
      have hlength := hrun.digitRunLength_append []
      have hne : run.length ≠ 0 := mt List.length_eq_zero_iff.mp hrun.ne_nil
      rw [List.append_nil] at hlength
      rw [lexeme_based hmarker (by omega), hlength]
      rfl

theorem Lexeme.kind_unique {kind' : TokenKind} (h : Lexeme kind text) (h' : Lexeme kind' text) :
    kind = kind' := by
  have heq := h.lexeme_eq.symm.trans h'.lexeme_eq
  exact congrArg Prod.fst heq

theorem Lexeme.isTerminal (h : Lexeme kind text) : kind.isTerminal = false := by
  have hspellings : ∀ entry ∈ spellings, entry.2.isTerminal = false := by decide
  cases h with
  | spelling hmem => exact hspellings _ hmem
  | _ => rfl

end Lexemes

/-! ## What the scanner takes -/

section Take

open Token

variable {c : Char} {rest : List Char}

/-- The scanner takes a lexeme off the text, or a fault. -/
def Takes (cs : List Char) : Prop :=
  ∃ text after, cs = text ++ after ∧
    ((∃ kind, Token.lexeme cs = (kind, text.length) ∧ Lexeme kind text ∧
        (opensRadix cs = true → 1 < text.length)) ∨
      ∃ cause, Token.lexeme cs = (.error cause, text.length) ∧ LexicalFault cause text cs)

theorem takes_symbol (h : Text.isLetter c = true) (rest : List Char) : Takes (c :: rest) := by
  refine ⟨c :: rest.takeWhile isSymbolPart, rest.dropWhile isSymbolPart, ?_,
    .inl ⟨.symbol, ?_, ?_, ?_⟩⟩
  · rw [List.cons_append, List.takeWhile_append_dropWhile]
  · rw [lexeme_symbol h, List.length_cons]
  · exact .symbol h (List.all_eq_true.mp List.all_takeWhile)
  · intro hopens
    have hzero : c ≠ '0' := ne_of_holds h (by decide)
    simp [opensRadix, hzero] at hopens

theorem takes_string (rest : List Char) : Takes ('\x60' :: rest) := by
  by_cases hclosing : '\x60' ∈ rest
  · obtain ⟨body, after, rfl, hbody⟩ := List.eq_append_cons_of_mem hclosing
    refine ⟨'\x60' :: body ++ ['\x60'], after, by simp, .inl ⟨.string, ?_, .string hbody, ?_⟩⟩
    · rw [← List.cons_append, lexeme_string hbody]
      simp
    · intro _
      simp
  · exact ⟨'\x60' :: rest, [], by simp,
      .inr ⟨.unterminatedString, lexeme_unterminated hclosing, .unterminated hclosing⟩⟩

/-- A first digit and the longest run behind it, if there is one. -/
theorem takes_run {radix : Radix}
    (hlexeme : lexeme (c :: rest) = (.integer, radix.digitRunLength rest + 1))
    (hopens : opensRadix (c :: rest) = false) (hdigit : Radix.decimal.isDigit c = true)
    (hrun : ∀ run, DigitRun radix run → Lexeme .integer (c :: run)) : Takes (c :: rest) := by
  have hradix : ∀ n, opensRadix (c :: rest) = true → 1 < n := by
    intro n htrue
    rw [hopens] at htrue
    exact absurd htrue (by decide)
  rcases Nat.eq_zero_or_pos (radix.digitRunLength rest) with hnone | hpos
  · rw [hnone] at hlexeme
    exact ⟨[c], rest, rfl, .inl ⟨.integer, hlexeme, .digit hdigit, hradix _⟩⟩
  · have hle := Radix.digitRunLength_le radix rest
    refine ⟨c :: rest.take (radix.digitRunLength rest), rest.drop (radix.digitRunLength rest),
      by simp, .inl ⟨.integer, ?_, hrun _ (digitRun_take hpos), hradix _⟩⟩
    rw [hlexeme, List.length_cons, List.length_take_of_le hle]

theorem takes_decimal (hdigit : Radix.decimal.isDigit c = true) (hzero : c ≠ '0')
    (rest : List Char) : Takes (c :: rest) := by
  apply takes_run (lexeme_decimal hdigit hzero rest) (by simp [opensRadix, hzero]) hdigit
  intro run hrun
  exact .decimal hdigit hzero hrun

theorem takes_octal (h : ∀ c, rest.head? = some c → Radix.ofMarker? c = none) :
    Takes ('0' :: rest) := by
  have hopens : opensRadix ('0' :: rest) = false := by
    cases rest with
    | nil => rfl
    | cons c rest => simp [opensRadix, h c rfl]
  apply takes_run ((lexeme_zero rest).trans (zeroLexeme_octal h)) hopens (by decide)
  intro run hrun
  exact .octal hrun

theorem takes_based {marker : Char} {radix : Radix} (h : Radix.ofMarker? marker = some radix)
    (rest : List Char) : Takes ('0' :: marker :: rest) := by
  rcases Nat.eq_zero_or_pos (radix.digitRunLength rest) with hnone | hpos
  · exact ⟨['0', marker], rest, rfl, .inr ⟨.expected radix.digitName,
      lexeme_missingDigit h hnone, .missingDigit h (digitRunLength_eq_zero_iff.mp hnone)⟩⟩
  · have hle := Radix.digitRunLength_le radix rest
    refine ⟨'0' :: marker :: rest.take (radix.digitRunLength rest),
      rest.drop (radix.digitRunLength rest), by simp,
      .inl ⟨.integer, ?_, .based h (digitRun_take hpos), fun _ => by simp⟩⟩
    rw [lexeme_based h (by omega), List.length_cons, List.length_cons,
      List.length_take_of_le hle]

theorem takes_spelling {text : List Char} {kind : TokenKind} (h : (text, kind) ∈ spellings)
    {cs : List Char} (hstarts : text <+: cs) : Takes cs := by
  obtain ⟨⟨found, kind'⟩, hentry, ⟨after, rfl⟩, hlexeme, _⟩ := lexeme_of_spelling h hstarts
  refine ⟨found, after, rfl, .inl ⟨kind', hlexeme, .spelling hentry, ?_⟩⟩
  intro hopens
  obtain ⟨d, found, rfl⟩ := List.exists_cons_of_ne_nil (Lexeme.spelling hentry).ne_nil
  have hzero : d ≠ '0' := by
    rintro rfl
    exact absurd (not_opensText_of_spelling hentry) (by decide)
  simp [opensRadix, hzero] at hopens

theorem lexeme_loneEquals (h : rest.head? ≠ some '=') :
    lexeme ('=' :: rest) = (.error (.expected "=="), 1) := by
  have hnone : spellings.find? (fun entry => entry.1.isPrefixOf ('=' :: rest)) = none := by
    cases rest with
    | nil => decide
    | cons d rest =>
        have hd : d ≠ '=' := by simpa using h
        have hne : ('=' == d) = false := beq_eq_false_iff_ne.mpr hd.symm
        simp [spellings, List.find?, List.isPrefixOf, hne]
  rw [lexeme, hnone]
  rfl

/-- Apart from `=`, every first character of a spelling is a spelling itself. -/
theorem spelling_of_head {kind : TokenKind} {text : List Char}
    (h : (c :: text, kind) ∈ spellings) (hne : c ≠ '=') : ∃ kind, ([c], kind) ∈ spellings := by
  have hall : ∀ entry ∈ spellings, entry.1.head? = some '=' ∨
      ∃ other ∈ spellings, other.1 = entry.1.take 1 := by
    decide
  rcases hall _ h with hhead | ⟨⟨single, kind'⟩, hmem, heq⟩
  · exact absurd (Option.some.inj hhead) hne
  · simp only [List.take_succ_cons, List.take_zero] at heq
    exact ⟨kind', heq ▸ hmem⟩

/-- A character that begins no lexeme is what the scanner reports. -/
theorem lexeme_unexpected (h : ∀ kind text, ¬ Lexeme kind (c :: text)) (rest : List Char) :
    lexeme (c :: rest) = (.error (.unexpectedCharacter c), 1) := by
  have hspelling : ∀ text kind, (c :: text, kind) ∉ spellings := by
    intro text kind hmem
    exact h kind text (.spelling hmem)
  have hequal : c ≠ '=' := by
    rintro rfl
    exact h .equal ['='] (.spelling (by decide))
  have hplace : c ≠ '?' := by
    rintro rfl
    exact h _ _ .placeholder
  have hquote : c ≠ '\x60' := by
    rintro rfl
    exact h .string ['\x60'] (.string (List.not_mem_nil))
  have hdigit : Radix.decimal.isDigit c = false :=
    Bool.eq_false_iff.mpr fun hdigit => h _ _ (.digit hdigit)
  have hzero : c ≠ '0' := by
    rintro rfl
    exact absurd hdigit (by decide)
  have hletter : Text.isLetter c = false :=
    Bool.eq_false_iff.mpr fun hletter => h _ [] (.symbol hletter (by simp))
  rw [lexeme_of_no_spelling hspelling]
  simp [openLexeme, hequal, hplace, hquote, hzero, hdigit, hletter]

theorem takes_cons (c : Char) (rest : List Char) : Takes (c :: rest) := by
  by_cases hletter : Text.isLetter c = true
  · exact takes_symbol hletter rest
  by_cases hquote : c = '\x60'
  · exact hquote ▸ takes_string rest
  by_cases hplace : c = '?'
  · subst hplace
    exact ⟨['?'], rest, rfl, .inl ⟨.symbol, rfl, .placeholder, by simp [opensRadix]⟩⟩
  by_cases hdigit : Radix.decimal.isDigit c = true
  · by_cases hzero : c = '0'
    · subst hzero
      by_cases hmarker : ∃ d radix, rest.head? = some d ∧ Radix.ofMarker? d = some radix
      · obtain ⟨d, radix, hhead, hmarker⟩ := hmarker
        obtain ⟨tail, rfl⟩ := List.head?_eq_some_iff.mp hhead
        exact takes_based hmarker tail
      · apply takes_octal
        intro d hhead
        cases hsome : Radix.ofMarker? d with
        | none => rfl
        | some radix => exact absurd ⟨d, radix, hhead, hsome⟩ hmarker
    · exact takes_decimal hdigit hzero rest
  by_cases hequal : c = '='
  · subst hequal
    by_cases hsecond : rest.head? = some '='
    · obtain ⟨tail, rfl⟩ := List.head?_eq_some_iff.mp hsecond
      have hmem : (['=', '='], TokenKind.equal) ∈ spellings := by decide
      exact takes_spelling hmem ⟨tail, rfl⟩
    · exact ⟨['='], rest, rfl,
        .inr ⟨.expected "==", lexeme_loneEquals hsecond, .loneEquals hsecond⟩⟩
  by_cases hspelling : ∃ kind, ([c], kind) ∈ spellings
  · obtain ⟨kind, hmem⟩ := hspelling
    exact takes_spelling hmem ⟨rest, rfl⟩
  · have hnone : ∀ kind text, ¬ Lexeme kind (c :: text) := by
      intro kind text hlexeme
      cases hlexeme with
      | spelling hmem => exact hspelling (spelling_of_head hmem hequal)
      | placeholder => exact hplace rfl
      | symbol h _ => exact hletter h
      | string => exact hquote rfl
      | digit h => exact hdigit h
      | decimal h => exact hdigit h
      | octal => exact hdigit (by decide)
      | based => exact hdigit (by decide)
    exact ⟨[c], rest, rfl,
      .inr ⟨.unexpectedCharacter c, lexeme_unexpected hnone rest, .unexpected hnone⟩⟩

end Take

/-! ## The scanner and the grammar -/

theorem LexicalFault.lexeme_eq {cause : LexError} {text cs : List Char}
    (h : LexicalFault cause text cs) : Token.lexeme cs = (.error cause, text.length) := by
  cases h with
  | loneEquals hrest => exact lexeme_loneEquals hrest
  | missingDigit hmarker hrest =>
      exact Token.lexeme_missingDigit hmarker (digitRunLength_eq_zero_iff.mpr hrest)
  | unterminated hrest => exact Token.lexeme_unterminated hrest
  | unexpected hnone => exact lexeme_unexpected hnone _

/-- A fault stays one in every first part of the source that reaches past its zero. -/
theorem LexicalFault.of_prefix {cause : LexError} {part cs text : List Char}
    (h : LexicalFault cause part cs) (hstarts : text <+: cs) (hne : text ≠ [])
    (hradix : opensRadix cs = true → 1 < text.length) :
    ∃ part', LexicalFault cause part' text := by
  obtain ⟨c, tail, rfl⟩ := List.exists_cons_of_ne_nil hne
  cases h with
  | @loneEquals rest hrest =>
      obtain ⟨rfl, htail⟩ := List.cons_prefix_cons.mp hstarts
      refine ⟨_, .loneEquals ?_⟩
      intro hhead
      obtain ⟨tail', rfl⟩ := List.head?_eq_some_iff.mp hhead
      obtain ⟨after, rfl⟩ := htail
      exact hrest rfl
  | @missingDigit marker radix rest hmarker hrest =>
      have hlong : 1 < (c :: tail).length := hradix (by simp [opensRadix, hmarker])
      obtain ⟨d, tail, rfl⟩ : ∃ d rest, tail = d :: rest := by
        cases tail with
        | nil => exact absurd hlong (by simp)
        | cons d rest => exact ⟨d, rest, rfl⟩
      obtain ⟨rfl, hmarked⟩ := List.cons_prefix_cons.mp hstarts
      obtain ⟨rfl, htail⟩ := List.cons_prefix_cons.mp hmarked
      refine ⟨_, .missingDigit hmarker ?_⟩
      intro d hdigit
      exact ⟨fun hd => (hrest d hdigit).1 (hd.trans htail),
        fun hd => (hrest d hdigit).2 (hd.trans htail)⟩
  | @unterminated rest hrest =>
      obtain ⟨rfl, htail⟩ := List.cons_prefix_cons.mp hstarts
      exact ⟨_, .unterminated fun hmem => hrest (htail.subset hmem)⟩
  | @unexpected d rest hnone =>
      obtain ⟨rfl, -⟩ := List.cons_prefix_cons.mp hstarts
      exact ⟨_, .unexpected hnone⟩

theorem LexicalFault.not_longest {cause : LexError} {part cs text : List Char} {kind : TokenKind}
    (h : LexicalFault cause part cs) : ¬ LongestLexeme kind text cs := by
  rintro ⟨hlexeme, hstarts, -, hradix⟩
  obtain ⟨part', hfault⟩ := h.of_prefix hstarts hlexeme.ne_nil hradix
  have heq := hlexeme.lexeme_eq.symm.trans hfault.lexeme_eq
  have hterminal := hlexeme.isTerminal
  obtain ⟨rfl, -⟩ := Prod.mk.inj heq
  exact absurd hterminal (by simp [TokenKind.isTerminal])

theorem take_of_lexeme {text after : List Char} {kind : TokenKind}
    (h : Token.lexeme (text ++ after) = (kind, text.length)) :
    Token.take (text ++ after) = (⟨kind, String.ofList text⟩, after) := by
  simp [Token.take, h]

theorem firstToken_take (cs : List Char) :
    FirstToken cs (Token.take cs).1 (Token.take cs).2 := by
  cases cs with
  | nil => exact .eof
  | cons c rest =>
      obtain ⟨text, after, heq, ⟨kind, hlexeme, hkind, hradix⟩ | ⟨cause, hlexeme, hfault⟩⟩ :=
        takes_cons c rest
      · rw [heq] at hlexeme hradix ⊢
        rw [take_of_lexeme hlexeme]
        refine .lexeme ⟨hkind, ⟨after, rfl⟩, ?_, hradix⟩
        rintro kind' text' hkind' ⟨after', hafter'⟩
        have hle := hkind'.length_le after'
        rw [hafter', hlexeme] at hle
        exact hle
      · rw [heq] at hlexeme hfault ⊢
        rw [take_of_lexeme hlexeme]
        exact .fault hfault

theorem LongestLexeme.unique {cs text text' : List Char} {kind kind' : TokenKind}
    (h : LongestLexeme kind text cs) (h' : LongestLexeme kind' text' cs) :
    kind = kind' ∧ text = text' := by
  have hle := h'.longest _ _ h.lexeme h.starts
  have hge := h.longest _ _ h'.lexeme h'.starts
  have htext : text = text' := by
    have hprefix := List.prefix_of_prefix_length_le h.starts h'.starts hle
    exact hprefix.eq_of_length (Nat.le_antisymm hle hge)
  subst htext
  exact ⟨h.lexeme.kind_unique h'.lexeme, rfl⟩

theorem take_of_firstToken {cs rest : List Char} {token : Token} (h : FirstToken cs token rest) :
    Token.take cs = (token, rest) := by
  cases h with
  | eof => rfl
  | @lexeme kind text rest hlongest =>
      have htaken := firstToken_take (text ++ rest)
      generalize htake : Token.take (text ++ rest) = taken at htaken
      generalize hcs : text ++ rest = cs at htaken hlongest
      obtain ⟨token, rest'⟩ := taken
      cases htaken with
      | eof => exact absurd (List.append_eq_nil_iff.mp hcs).1 hlongest.lexeme.ne_nil
      | lexeme hlongest' =>
          obtain ⟨rfl, rfl⟩ := hlongest.unique hlongest'
          rw [List.append_cancel_left hcs]
      | fault hfault => exact absurd hlongest hfault.not_longest
  | fault hfault => exact take_of_lexeme hfault.lexeme_eq

theorem take_eq_iff_firstToken {cs rest : List Char} {token : Token} :
    Token.take cs = (token, rest) ↔ FirstToken cs token rest := by
  constructor
  · intro htake
    have hfirst := firstToken_take cs
    rw [htake] at hfirst
    exact hfirst
  · exact take_of_firstToken

theorem all_eq (cs : List Char) :
    Token.all cs = if (Token.next cs).1.isTerminal then [(Token.next cs).1]
      else (Token.next cs).1 :: Token.all (Token.next cs).2 := by
  rw [Token.all]
  simp only [dite_eq_ite]

theorem splits_all (cs : List Char) : Splits cs (Token.all cs) := by
  induction hlength : cs.length using Nat.strongRecOn generalizing cs with
  | _ length ih =>
      have hfirst := firstToken_take (cs.dropWhile Text.isBlank)
      rw [all_eq]
      split
      · rename_i hterminal
        exact .last hfirst hterminal
      · rename_i hterminal
        have hnot : (Token.next cs).1.isTerminal = false := Bool.eq_false_iff.mpr hterminal
        have hlt := Token.length_next_lt hnot
        exact .cons hfirst hnot (ih _ (hlength ▸ hlt) _ rfl)

theorem all_of_splits {cs : List Char} {tokens : List Token} (h : Splits cs tokens) :
    Token.all cs = tokens := by
  induction h with
  | @last cs rest token hfirst hterminal =>
      have hnext : Token.next cs = (token, rest) := take_of_firstToken hfirst
      rw [all_eq, hnext, if_pos hterminal]
  | @cons cs rest token tokens hfirst hnot _ ih =>
      have hnext : Token.next cs = (token, rest) := take_of_firstToken hfirst
      rw [all_eq, hnext, if_neg (by simp [hnot]), ih]

/-- Every token of a text is the first one of what is left of it. -/
theorem Splits.exists_firstToken {cs : List Char} {tokens : List Token} (h : Splits cs tokens)
    {token : Token} (hmem : token ∈ tokens) : ∃ left rest, FirstToken left token rest := by
  induction h with
  | last htaken _ =>
      rw [List.mem_singleton] at hmem
      exact ⟨_, _, hmem ▸ htaken⟩
  | cons htaken _ _ ih =>
      rcases List.mem_cons.mp hmem with rfl | hmem
      · exact ⟨_, _, htaken⟩
      · exact ih hmem

theorem lexeme_of_splits {cs : List Char} {tokens : List Token} (h : Splits cs tokens)
    {token : Token} (hmem : token ∈ tokens) (htoken : token.isTerminal = false) :
    Lexeme token.kind token.text.toList := by
  obtain ⟨left, rest, hfirst⟩ := h.exists_firstToken hmem
  cases hfirst with
  | eof => exact absurd htoken (by decide)
  | lexeme hlongest =>
      rw [String.toList_ofList]
      exact hlongest.lexeme
  | fault => exact absurd htoken (by simp)

/-- Behind a run of blanks the scanner takes exactly the first token of the grammar, and whole
text falls into exactly the tokens that the grammar splits it into. -/
theorem tokenize_eq_iff_splits :
    (∀ (cs rest : List Char) (token : Token),
      Token.next cs = (token, rest) ↔ FirstToken (cs.dropWhile Text.isBlank) token rest) ∧
    ∀ (source : String) (tokens : List Token),
      tokenize source = tokens ↔ Splits source.toList tokens := by
  constructor
  · intro cs rest token
    exact take_eq_iff_firstToken
  · intro source tokens
    constructor
    · rintro rfl
      exact splits_all source.toList
    · exact all_of_splits

end FieldPredicate
