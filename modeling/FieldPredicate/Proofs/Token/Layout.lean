import FieldPredicate.Proofs.Token.LongestMatch

/-!
# Tokens account for all text

The first token of text is the text behind its leading blanks up to what is left for the other
tokens. By induction over the tokens, text is made of gaps of blanks, the tokens in their order, and
what is left behind the terminal one: nothing at the end of the text, and anything at a fault. A
stream that is read on demand gives the same tokens, and nothing after them.
-/

namespace FieldPredicate

/-! ## The first token -/

section FirstToken

variable {cs rest : List Char} {token : Token}

theorem Token.kind_ne_eof (h : token.isTerminal = false) : token.kind ≠ .eof := by
  intro heof
  rw [Token.isTerminal, heof] at h
  cases h

theorem LexicalFault.ne_nil {cause : LexError} {text : List Char}
    (h : LexicalFault cause text cs) : text ≠ [] := by
  cases h <;> simp

theorem FirstToken.text_append (h : FirstToken cs token rest) :
    cs = token.text.toList ++ rest := by
  cases h with
  | eof => rfl
  | lexeme => rw [String.toList_ofList]
  | fault => rw [String.toList_ofList]

theorem FirstToken.text_ne_empty (h : FirstToken cs token rest) (hkind : token.kind ≠ .eof) :
    token.text ≠ "" := by
  cases h with
  | eof => exact absurd rfl hkind
  | lexeme hlongest =>
      rw [Ne, String.ofList_eq_empty_iff]
      exact hlongest.lexeme.ne_nil
  | fault hfault =>
      rw [Ne, String.ofList_eq_empty_iff]
      exact hfault.ne_nil

theorem FirstToken.eq_nil (h : FirstToken cs token rest) (hkind : token.kind = .eof) :
    token.text = "" ∧ rest = [] := by
  cases h with
  | eof => exact ⟨rfl, rfl⟩
  | @lexeme kind text rest hlongest =>
      have heof : kind = .eof := hkind
      have hterminal := hlongest.lexeme.isTerminal
      rw [heof] at hterminal
      exact absurd hterminal (by decide)
  | fault => cases hkind

end FirstToken

/-! ## All tokens -/

/-- Text in which each token stands behind the text that is paired with it. -/
def Token.laidOut (pieces : List (List Char × Token)) : List Char :=
  pieces.flatMap fun piece => piece.1 ++ piece.2.text.toList

def IsGap (cs : List Char) : Prop :=
  ∀ c ∈ cs, Text.isBlank c = true

instance (cs : List Char) : Decidable (IsGap cs) :=
  decidable_of_iff (cs.all Text.isBlank = true) List.all_eq_true

/-- Text is made of tokens with a gap before each, of a terminal token behind another gap, and of
what is left over. The gaps take all blanks before the tokens. -/
structure MadeOf (cs : List Char) (pieces : List (List Char × Token)) (gap : List Char)
    (last : Token) (rest : List Char) : Prop where
  text_eq : cs = Token.laidOut pieces ++ gap ++ last.text.toList ++ rest
  gaps : (∀ piece ∈ pieces, IsGap piece.1) ∧ IsGap gap
  maximal : ∀ token ∈ last :: pieces.map (·.2), token.text.toList.head?.any Text.isBlank = false
  inner : ∀ piece ∈ pieces, piece.2.isTerminal = false ∧ piece.2.text ≠ ""
  terminal : last.isTerminal = true
  eof : last.kind = .eof → last.text = "" ∧ rest = []
  fault : last.kind ≠ .eof → last.text ≠ ""

section MadeOf

variable {cs gap rest : List Char} {token : Token}

theorem isGap_takeWhile (cs : List Char) : IsGap (cs.takeWhile Text.isBlank) := by
  intro c hmem
  exact List.all_eq_true.mp List.all_takeWhile c hmem

theorem FirstToken.source_eq (h : FirstToken (cs.dropWhile Text.isBlank) token rest) :
    cs = cs.takeWhile Text.isBlank ++ token.text.toList ++ rest := by
  rw [List.append_assoc, ← h.text_append, List.takeWhile_append_dropWhile]

theorem FirstToken.head?_any_isBlank (h : FirstToken (cs.dropWhile Text.isBlank) token rest) :
    token.text.toList.head?.any Text.isBlank = false := by
  have hhead := List.head?_dropWhile_not Text.isBlank cs
  rw [h.text_append] at hhead
  cases htext : token.text.toList with
  | nil => rfl
  | cons c part =>
      rw [htext] at hhead
      exact hhead

theorem MadeOf.last (h : FirstToken (cs.dropWhile Text.isBlank) token rest)
    (htoken : token.isTerminal = true) :
    MadeOf cs [] (cs.takeWhile Text.isBlank) token rest where
  text_eq := h.source_eq
  gaps := ⟨List.forall_mem_nil _, isGap_takeWhile cs⟩
  maximal := List.forall_mem_singleton.mpr h.head?_any_isBlank
  inner := List.forall_mem_nil _
  terminal := htoken
  eof := h.eq_nil
  fault := h.text_ne_empty

theorem MadeOf.cons {pieces : List (List Char × Token)} {last : Token} {after : List Char}
    (h : FirstToken (cs.dropWhile Text.isBlank) token rest) (htoken : token.isTerminal = false)
    (hrest : MadeOf rest pieces gap last after) :
    MadeOf cs ((cs.takeWhile Text.isBlank, token) :: pieces) gap last after where
  text_eq := by
    refine h.source_eq.trans ?_
    rw [hrest.text_eq]
    simp [Token.laidOut]
  gaps := ⟨List.forall_mem_cons.mpr ⟨isGap_takeWhile cs, hrest.gaps.1⟩, hrest.gaps.2⟩
  maximal := by
    obtain ⟨hlast, hpieces⟩ := List.forall_mem_cons.mp hrest.maximal
    rw [List.map_cons]
    exact List.forall_mem_cons.mpr
      ⟨hlast, List.forall_mem_cons.mpr ⟨h.head?_any_isBlank, hpieces⟩⟩
  inner := by
    have htext : token.text ≠ "" := h.text_ne_empty (Token.kind_ne_eof htoken)
    exact List.forall_mem_cons.mpr ⟨⟨htoken, htext⟩, hrest.inner⟩
  terminal := hrest.terminal
  eof := hrest.eof
  fault := hrest.fault

theorem Splits.exists_madeOf {tokens : List Token} (h : Splits cs tokens) :
    ∃ pieces gap last rest, tokens = pieces.map (·.2) ++ [last] ∧
      MadeOf cs pieces gap last rest := by
  induction h with
  | last hfirst htoken => exact ⟨[], _, _, _, rfl, .last hfirst htoken⟩
  | cons hfirst htoken _ ih =>
      obtain ⟨pieces, gap, last, rest, rfl, hrest⟩ := ih
      exact ⟨_ :: pieces, gap, last, rest, rfl, .cons hfirst htoken hrest⟩

end MadeOf

/-- The last token is the end of the text or a fault, and no token before it is one of these. -/
theorem exists_tokenize_eq (source : String) :
    ∃ front last, tokenize source = front ++ [last] ∧
      (∀ token ∈ front, token.isTerminal = false) ∧
        (last = .eof ∨ ∃ cause text, last = ⟨.error cause, text⟩) := by
  obtain ⟨pieces, gap, ⟨kind, text⟩, rest, htokens, hmade⟩ :=
    (splits_all source.toList).exists_madeOf
  refine ⟨_, _, htokens, ?_, ?_⟩
  · intro token hmem
    obtain ⟨piece, hpiece, rfl⟩ := List.mem_map.mp hmem
    exact (hmade.inner piece hpiece).1
  · have hterminal := hmade.terminal
    cases kind with
    | eof =>
        obtain ⟨rfl, -⟩ := hmade.eof rfl
        exact .inl rfl
    | error cause => exact .inr ⟨cause, text, rfl⟩
    | _ => cases hterminal

theorem isTerminal_of_tokenize {source : String} {front : List Token} {last : Token}
    (h : tokenize source = front ++ [last]) : ∀ token ∈ front, token.isTerminal = false := by
  obtain ⟨other, terminal, htokens, hinner, -⟩ := exists_tokenize_eq source
  obtain ⟨rfl, -⟩ := List.append_inj' (h.symm.trans htokens) rfl
  exact hinner

/-! ## Reading on demand -/

namespace TokenStream

theorem pull_finished (name : String) (rest : List Char) (count : Nat) :
    pull count ⟨name, rest, true⟩ = List.replicate count none := by
  induction count with
  | zero => rfl
  | succ count ih =>
      have hnext : next ⟨name, rest, true⟩ = (none, ⟨name, rest, true⟩) := rfl
      rw [pull, hnext, ih, List.replicate_succ]

theorem next_unfinished (name : String) (cs : List Char) :
    next ⟨name, cs, false⟩ =
      (some (Token.next cs).1, ⟨name, (Token.next cs).2, (Token.next cs).1.isTerminal⟩) :=
  rfl

theorem pull_unfinished (name : String) (count : Nat) (cs : List Char) :
    pull count ⟨name, cs, false⟩ =
      ((Token.all cs).take count).map some ++
        List.replicate (count - (Token.all cs).length) none := by
  induction count generalizing cs with
  | zero => simp [pull]
  | succ count ih =>
      rw [pull, next_unfinished, all_eq]
      cases hterminal : (Token.next cs).1.isTerminal with
      | true =>
          rw [pull_finished]
          simp
      | false =>
          rw [ih]
          simp

end TokenStream

/-- The tokens of a source are parts of it, not empty up to the terminal one, in their order and
with only blanks between them. They reach the end of the source, or a fault that is the beginning
of what is left. Reading any number of tokens on demand gives the first ones of them, and then
nothing. -/
theorem tokenize_accounts_for_source (name source : String) :
    (∃ pieces gap last rest, tokenize source = pieces.map (·.2) ++ [last] ∧
      MadeOf source.toList pieces gap last rest) ∧
    ∀ count, (TokenStream.ofSource name source).pull count =
      ((tokenize source).take count).map some ++
        List.replicate (count - (tokenize source).length) none := by
  constructor
  · exact (splits_all source.toList).exists_madeOf
  · intro count
    exact TokenStream.pull_unfinished name count source.toList

end FieldPredicate
