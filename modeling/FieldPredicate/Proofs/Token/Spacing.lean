import FieldPredicate.Proofs.Token.Layout

/-!
# Tokens are independent of their surroundings

A lexeme is found by looking at what stands behind it, but no lexeme except a string goes on over a
blank or a closing parenthesis, and a string ends at its second backtick. So the first tokens of a
text stay as they are when it goes on with such a character, and tokens that are laid out with
other gaps between them are found again.
-/

namespace FieldPredicate

/-! ## Characters that continue no lexeme -/

/-- Outside strings, the character stands in lexemes at most as their first character. -/
def Breaks (c : Char) : Prop :=
  ∀ kind text, Lexeme kind text → c ∈ text.tail → kind = .string

section Breaks

variable {c : Char} {kind : TokenKind} {text rest cs : List Char}

theorem DigitRun.isDigit_of_mem {radix : Radix} (h : DigitRun radix text) (hmem : c ∈ text) :
    radix.isDigit c = true ∨ c = '_' := by
  induction h with
  | digit hdigit => exact .inl (List.mem_singleton.mp hmem ▸ hdigit)
  | separated hdigit =>
      rcases List.mem_cons.mp hmem with rfl | hmem
      · exact .inr rfl
      · exact .inl (List.mem_singleton.mp hmem ▸ hdigit)
  | append _ _ ihleft ihright =>
      rcases List.mem_append.mp hmem with hmem | hmem
      · exact ihleft hmem
      · exact ihright hmem

/-- A character breaks lexemes if no spelling, no name and no literal goes on with it. -/
theorem breaks_of_not_part (hspelling : ∀ entry ∈ Token.spellings, c ∉ entry.1.tail)
    (hpart : Token.isSymbolPart c = false)
    (hdigit : ∀ radix : Radix, ¬ (radix.isDigit c = true ∨ c = '_'))
    (hmarker : Radix.ofMarker? c = none) : Breaks c := by
  intro kind text h hmem
  cases h with
  | spelling hentry => exact absurd hmem (hspelling _ hentry)
  | placeholder => cases hmem
  | symbol _ hrest =>
      have htrue := hrest c hmem
      rw [hpart] at htrue
      cases htrue
  | string => rfl
  | digit => cases hmem
  | @decimal _ run _ _ hrun => exact absurd (hrun.isDigit_of_mem hmem) (hdigit .decimal)
  | octal hrun => exact absurd (hrun.isDigit_of_mem hmem) (hdigit .octal)
  | @based marker radix run hradix hrun =>
      rcases List.mem_cons.mp hmem with rfl | hmem
      · rw [hmarker] at hradix
        cases hradix
      · exact absurd (hrun.isDigit_of_mem hmem) (hdigit radix)

theorem breaks_of_punctuation (h : c = ')' ∨ c = '.') : Breaks c := by
  apply breaks_of_not_part
  · rcases h with rfl | rfl <;> decide
  · rcases h with rfl | rfl <;> decide
  · intro radix
    rcases h with rfl | rfl <;> cases radix <;> decide
  · rcases h with rfl | rfl <;> rfl

theorem breaks_of_isBlank (h : Text.isBlank c = true) : Breaks c := by
  simp only [Text.isBlank, Bool.or_eq_true, decide_eq_true_eq] at h
  apply breaks_of_not_part
  · rcases h with (((rfl | rfl) | rfl) | rfl) | rfl <;> decide
  · rcases h with (((rfl | rfl) | rfl) | rfl) | rfl <;> decide
  · intro radix
    rcases h with (((rfl | rfl) | rfl) | rfl) | rfl <;> cases radix <;> decide
  · rcases h with (((rfl | rfl) | rfl) | rfl) | rfl <;> rfl

/-- A letter that announces a radix goes on a zero, so it breaks no lexeme. -/
theorem Breaks.ofMarker?_eq_none (h : Breaks c) : Radix.ofMarker? c = none := by
  cases hmarker : Radix.ofMarker? c with
  | none => rfl
  | some radix =>
      have hzero : radix.isDigit '0' = true := by cases radix <;> decide
      have hlexeme : Lexeme .integer ['0', c, '0'] := .based hmarker (.digit hzero)
      have hkind := h _ _ hlexeme List.mem_cons_self
      cases hkind

/-! ## Lexemes in front of such a character -/

theorem Lexeme.exists_body (h : Lexeme .string text) :
    ∃ body, '\x60' ∉ body ∧ text = '\x60' :: body ++ ['\x60'] := by
  cases h with
  | spelling hmem =>
      have hall : ∀ entry ∈ Token.spellings, entry.2 ≠ .string := by decide
      exact absurd rfl (hall _ hmem)
  | string hbody => exact ⟨_, hbody, rfl⟩

theorem Lexeme.eq_string_of_backtick (h : Lexeme kind ('\x60' :: rest)) : kind = .string := by
  have hlexeme := h.lexeme_eq
  by_cases hmem : '\x60' ∈ rest
  · obtain ⟨body, after, rfl, hbody⟩ := List.eq_append_cons_of_mem hmem
    rw [← List.cons_append, Token.lexeme_string hbody] at hlexeme
    exact (congrArg Prod.fst hlexeme).symm
  · rw [Token.lexeme_unterminated hmem] at hlexeme
    have hkind : TokenKind.error .unterminatedString = kind := congrArg Prod.fst hlexeme
    have hterminal := h.isTerminal
    rw [← hkind] at hterminal
    cases hterminal

/-- No lexeme goes on with a character that breaks lexemes: only a string could, and the string that
begins there has ended already. -/
theorem Breaks.not_lexeme_append (hc : Breaks c) (h : Lexeme kind text) (kind' : TokenKind)
    (more after : List Char) : ¬ Lexeme kind' (text ++ (more ++ c :: after)) := by
  intro hlong
  obtain ⟨d, tail, rfl⟩ := List.exists_cons_of_ne_nil h.ne_nil
  have hkind' : kind' = .string := by
    apply hc _ _ hlong
    simp
  subst hkind'
  have hd : d = '\x60' := by
    obtain ⟨body, -, heq⟩ := hlong.exists_body
    exact (List.cons.inj heq).1
  subst hd
  have hkind : kind = .string := h.eq_string_of_backtick
  subst hkind
  obtain ⟨body, hbody, htext⟩ := h.exists_body
  have hlexeme := hlong.lexeme_eq
  rw [htext, List.append_assoc, List.singleton_append, Token.lexeme_string hbody] at hlexeme
  have hlength := congrArg Prod.snd hlexeme
  simp at hlength

theorem opensRadix_append (hne : cs ≠ []) (hc : Radix.ofMarker? c = none) (after : List Char) :
    opensRadix (cs ++ c :: after) = opensRadix cs := by
  match cs, hne with
  | [d], _ =>
      by_cases hd : d = '0'
      · simp [opensRadix, hd, hc]
      · simp [opensRadix, hd]
  | d :: e :: tail, _ =>
      by_cases hd : d = '0'
      · simp [opensRadix, hd]
      · simp [opensRadix, hd]

/-- A longest lexeme stays the longest one if the text goes on with such a character. -/
theorem LongestLexeme.append (h : LongestLexeme kind text (text ++ rest)) (hc : Breaks c)
    (after : List Char) : LongestLexeme kind text (text ++ (rest ++ c :: after)) where
  lexeme := h.lexeme
  starts := List.prefix_append text _
  longest := by
    intro kind' text' hother hstarts
    rw [← List.append_assoc] at hstarts
    rcases Nat.le_total text'.length (text ++ rest).length with hle | hge
    · exact h.longest _ _ hother
        (List.prefix_of_prefix_length_le hstarts (List.prefix_append _ _) hle)
    · obtain ⟨more, rfl⟩ :=
        List.prefix_of_prefix_length_le (List.prefix_append _ _) hstarts hge
      cases more with
      | nil =>
          apply h.longest _ _ hother
          simp
      | cons d more =>
          obtain ⟨rfl, -⟩ := List.cons_prefix_cons.mp ((List.prefix_append_right_inj _).mp hstarts)
          rw [List.append_assoc] at hother
          exact absurd hother (hc.not_lexeme_append h.lexeme _ _ _)
  radix := by
    intro hopens
    have hne : text ++ rest ≠ [] := List.append_ne_nil_of_left_ne_nil h.lexeme.ne_nil rest
    rw [← List.append_assoc, opensRadix_append hne hc.ofMarker?_eq_none] at hopens
    exact h.radix hopens

theorem Lexeme.longestLexeme (h : Lexeme kind text) : LongestLexeme kind text (text ++ []) where
  lexeme := h
  starts := List.prefix_append text []
  longest := by
    intro kind' text' _ hstarts
    rw [List.append_nil] at hstarts
    exact hstarts.length_le
  radix := by
    intro hopens
    rw [List.append_nil] at hopens
    match text with
    | [] | [_] => simp [opensRadix] at hopens
    | _ :: _ :: _ => simp

end Breaks

/-! ## The first tokens of text that goes on -/

section Append

variable {c : Char} {cs rest : List Char} {token : Token} {tokens : List Token}

theorem FirstToken.append (h : FirstToken cs token rest) (htoken : token.isTerminal = false)
    (hc : Breaks c) (after : List Char) :
    FirstToken (cs ++ c :: after) token (rest ++ c :: after) := by
  cases h with
  | eof => cases htoken
  | lexeme hlongest =>
      rw [List.append_assoc]
      exact .lexeme (hlongest.append hc after)
  | fault => cases htoken

/-- A lexeme is the first token if what stands behind it does not go on with it. -/
theorem Lexeme.firstToken {kind : TokenKind} {text : List Char} (h : Lexeme kind text)
    (hrest : ∀ c, rest.head? = some c → Breaks c) :
    FirstToken (text ++ rest) ⟨kind, String.ofList text⟩ rest := by
  have halone : FirstToken text ⟨kind, String.ofList text⟩ [] := by
    have hfirst := FirstToken.lexeme h.longestLexeme
    rw [List.append_nil] at hfirst
    exact hfirst
  cases rest with
  | nil =>
      rw [List.append_nil]
      exact halone
  | cons c after => exact halone.append h.isTerminal (hrest c rfl) after

theorem Lexeme.isBlank_head {kind : TokenKind} (h : Lexeme kind (c :: rest)) :
    Text.isBlank c = false := by
  cases hblank : Text.isBlank c with
  | false => rfl
  | true =>
      -- The scanner refuses a blank that is not skipped.
      have hlexeme : (Token.lexeme (c :: rest)).1.isTerminal = true := by
        simp only [Text.isBlank, Bool.or_eq_true, decide_eq_true_eq] at hblank
        rcases hblank with (((rfl | rfl) | rfl) | rfl) | rfl <;> rfl
      rw [h.lexeme_eq, h.isTerminal] at hlexeme
      cases hlexeme

theorem all_of_firstToken (h : FirstToken (cs.dropWhile Text.isBlank) token rest)
    (htoken : token.isTerminal = false) : Token.all cs = token :: Token.all rest := by
  apply all_of_splits
  exact .cons h htoken (splits_all rest)

theorem Lexeme.dropWhile_isBlank {kind : TokenKind} {text : List Char} (h : Lexeme kind text)
    (rest : List Char) : (text ++ rest).dropWhile Text.isBlank = text ++ rest := by
  obtain ⟨c, tail, rfl⟩ := List.exists_cons_of_ne_nil h.ne_nil
  rw [List.cons_append, List.dropWhile_cons_of_neg (by simp [h.isBlank_head])]

/-- A lexeme is taken whole if what stands behind it does not go on with it. -/
theorem all_lexeme {kind : TokenKind} {text : List Char} (h : Lexeme kind text)
    (hrest : ∀ c, rest.head? = some c → Breaks c) :
    Token.all (text ++ rest) = ⟨kind, String.ofList text⟩ :: Token.all rest := by
  have hfirst := h.firstToken hrest
  rw [← h.dropWhile_isBlank] at hfirst
  exact all_of_firstToken hfirst h.isTerminal

theorem all_gap (hgap : IsGap cs) (rest : List Char) : Token.all (cs ++ rest) = Token.all rest := by
  have hnext : Token.next (cs ++ rest) = Token.next rest := by
    rw [Token.next, Token.next, List.dropWhile_append_of_pos hgap]
  rw [all_eq, hnext, ← all_eq]

theorem Splits.exists_of_cons (h : Splits cs (token :: tokens)) (hne : tokens ≠ []) :
    ∃ rest, FirstToken (cs.dropWhile Text.isBlank) token rest ∧ token.isTerminal = false ∧
      Splits rest tokens := by
  cases h with
  | last => exact absurd rfl hne
  | cons hfirst htoken hrest => exact ⟨_, hfirst, htoken, hrest⟩

theorem Splits.isGap (h : Splits cs [.eof]) : IsGap cs := by
  cases h with
  | @last cs rest _ hfirst =>
      have hcs : cs = cs.takeWhile Text.isBlank ++ [] ++ rest := hfirst.source_eq
      obtain ⟨-, rfl⟩ := hfirst.eq_nil rfl
      rw [List.append_nil, List.append_nil] at hcs
      rw [hcs]
      exact isGap_takeWhile cs
  | cons _ hnot => cases hnot

/-- Text that falls into tokens keeps them if it goes on with a character that breaks lexemes. -/
theorem all_append (h : Token.all cs = tokens ++ [.eof]) (hc : Breaks c) (after : List Char) :
    Token.all (cs ++ c :: after) = tokens ++ Token.all (c :: after) := by
  have hsplits : Splits cs (tokens ++ [.eof]) := h ▸ splits_all cs
  clear h
  induction tokens generalizing cs with
  | nil => exact all_gap hsplits.isGap (c :: after)
  | cons token tokens ih =>
      obtain ⟨rest, hfirst, htoken, hrest⟩ := hsplits.exists_of_cons (by simp)
      have hdrop : (cs ++ c :: after).dropWhile Text.isBlank =
          cs.dropWhile Text.isBlank ++ c :: after := by
        rw [List.dropWhile_append, if_neg]
        intro hempty
        rw [List.isEmpty_iff, hfirst.text_append, List.append_eq_nil_iff,
          String.toList_eq_nil_iff] at hempty
        exact hfirst.text_ne_empty (Token.kind_ne_eof htoken) hempty.1
      have hfirst' : FirstToken ((cs ++ c :: after).dropWhile Text.isBlank) token
          (rest ++ c :: after) := by
        rw [hdrop]
        exact hfirst.append htoken hc after
      rw [all_of_firstToken hfirst' htoken, ih hrest, List.cons_append]

end Append

/-! ## Tokens with other gaps between them -/

section LaidOut

variable {pieces : List (List Char × Token)} {gap : List Char}

/-- Each piece is a gap and a lexeme, and only the first gap may be empty. -/
structure Spaced (pieces : List (List Char × Token)) : Prop where
  gaps : ∀ piece ∈ pieces, IsGap piece.1
  lexemes : ∀ piece ∈ pieces, Lexeme piece.2.kind piece.2.text.toList
  apart : ∀ piece ∈ pieces.tail, piece.1 ≠ []

theorem breaks_of_isGap (hgap : IsGap gap) {c : Char} (hhead : gap.head? = some c) : Breaks c := by
  apply breaks_of_isBlank
  exact hgap c (List.mem_of_mem_head? hhead)

theorem Spaced.tail {piece : List Char × Token} (h : Spaced (piece :: pieces)) :
    Spaced pieces where
  gaps := (List.forall_mem_cons.mp h.gaps).2
  lexemes := (List.forall_mem_cons.mp h.lexemes).2
  apart := by
    intro other hmem
    exact h.apart other (List.mem_of_mem_tail hmem)

/-- What stands behind a piece is the end of the text or begins with a blank. -/
theorem Spaced.breaks_head {piece : List Char × Token} (h : Spaced (piece :: pieces))
    (hgap : IsGap gap) :
    ∀ c, (Token.laidOut pieces ++ gap).head? = some c → Breaks c := by
  intro c hhead
  cases pieces with
  | nil => exact breaks_of_isGap hgap hhead
  | cons next rest =>
      obtain ⟨before, token⟩ := next
      have hbefore : IsGap before := h.gaps (before, token) (by simp)
      have hne : before ≠ [] := h.apart (before, token) (by simp)
      obtain ⟨d, tail, rfl⟩ := List.exists_cons_of_ne_nil hne
      apply breaks_of_isGap hbefore
      exact hhead

theorem all_laidOut (h : Spaced pieces) (hgap : IsGap gap) :
    Token.all (Token.laidOut pieces ++ gap) = pieces.map (·.2) ++ [.eof] := by
  induction pieces with
  | nil =>
      have hall := all_gap hgap []
      rw [List.append_nil] at hall
      refine hall.trans ?_
      rw [all_eq, Token.next_nil]
      rfl
  | cons piece rest ih =>
      obtain ⟨before, token⟩ := piece
      have hbefore : IsGap before := h.gaps _ List.mem_cons_self
      have hlexeme : Lexeme token.kind token.text.toList := h.lexemes _ List.mem_cons_self
      have htext : Token.laidOut ((before, token) :: rest) ++ gap =
          before ++ (token.text.toList ++ (Token.laidOut rest ++ gap)) := by
        simp [Token.laidOut]
      rw [htext, all_gap hbefore, all_lexeme hlexeme (h.breaks_head hgap), String.ofList_toList,
        ih h.tail]
      rfl

end LaidOut

theorem Splits.isTerminal {cs : List Char} {tokens : List Token} {last : Token}
    (h : Splits cs (tokens ++ [last])) : ∀ token ∈ tokens, token.isTerminal = false := by
  obtain ⟨pieces, gap, last', rest, hpieces, hmade⟩ := h.exists_madeOf
  obtain ⟨rfl, -⟩ := List.append_inj' hpieces rfl
  intro token hmem
  obtain ⟨piece, hpiece, rfl⟩ := List.mem_map.mp hmem
  exact (hmade.inner piece hpiece).1

/-- If a source falls into tokens up to its end, these tokens are found again in every text that
lays them out with blanks around them and between each two. So each of them is also found alone. -/
theorem tokenize_respaced {source : String} {tokens : List Token}
    (h : tokenize source = tokens ++ [.eof]) :
    (∀ (pieces : List (List Char × Token)) (gap : List Char),
      pieces.map (·.2) = tokens → (∀ piece ∈ pieces, IsGap piece.1) → IsGap gap →
      (∀ piece ∈ pieces.tail, piece.1 ≠ []) →
      tokenize (String.ofList (Token.laidOut pieces ++ gap)) = tokens ++ [.eof]) ∧
    ∀ token ∈ tokens, tokenize token.text = [token, .eof] := by
  have hlexemes : ∀ token ∈ tokens, Lexeme token.kind token.text.toList := by
    have hsplits : Splits source.toList (tokens ++ [.eof]) := h ▸ splits_all source.toList
    intro token hmem
    apply lexeme_of_splits hsplits (List.mem_append_left _ hmem)
    exact hsplits.isTerminal token hmem
  constructor
  · rintro pieces gap rfl hgaps hgap hapart
    have hspaced : Spaced pieces := by
      refine ⟨hgaps, ?_, hapart⟩
      intro piece hpiece
      exact hlexemes piece.2 (List.mem_map_of_mem hpiece)
    rw [tokenize, String.toList_ofList]
    exact all_laidOut hspaced hgap
  · intro token hmem
    have hnil : IsGap [] := List.forall_mem_nil _
    have hspaced : Spaced [([], token)] := by
      refine ⟨List.forall_mem_singleton.mpr hnil, ?_, List.forall_mem_nil _⟩
      exact List.forall_mem_singleton.mpr (hlexemes token hmem)
    have hall := all_laidOut hspaced hnil
    simp only [Token.laidOut, List.flatMap_singleton, List.nil_append, List.append_nil] at hall
    exact hall

/-- The tokens of `a<<08` are found again with blanks between them, where the zero stays alone. -/
theorem tokenize_shifted_zero_eight :
    tokenize "a<<08" =
      [⟨.symbol, "a"⟩, ⟨.shiftLeft, "<<"⟩, ⟨.integer, "0"⟩, ⟨.integer, "8"⟩, .eof] ∧
    tokenize "\ta << 0\n8 " =
      [⟨.symbol, "a"⟩, ⟨.shiftLeft, "<<"⟩, ⟨.integer, "0"⟩, ⟨.integer, "8"⟩, .eof] ∧
    tokenize "<<" = [⟨.shiftLeft, "<<"⟩, .eof] := by
  have htokens : tokenize "a<<08" =
      [⟨.symbol, "a"⟩, ⟨.shiftLeft, "<<"⟩, ⟨.integer, "0"⟩, ⟨.integer, "8"⟩] ++ [.eof] := by
    decide +kernel
  obtain ⟨hlaidOut, halone⟩ := tokenize_respaced htokens
  have hrespaced := hlaidOut
    [(['\t'], ⟨.symbol, "a"⟩), ([' '], ⟨.shiftLeft, "<<"⟩), ([' '], ⟨.integer, "0"⟩),
      (['\n'], ⟨.integer, "8"⟩)] [' '] rfl (by decide) (by decide) (by decide)
  exact ⟨htokens, hrespaced, halone ⟨.shiftLeft, "<<"⟩ (by decide)⟩

end FieldPredicate
