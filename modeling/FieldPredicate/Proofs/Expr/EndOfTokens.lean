import FieldPredicate.Proofs.Predicate.LexicalFaults

/-!
# Tokens behind the terminal one play no part

Readers meet the end of the tokens in five places, and in each of them the end of the text is the
same as no token at all, and a fault is the same whatever stands behind it. So a reader answers the
same on two lists that differ only from their terminal token on, provided that both end in the same
fault or in none. It leaves the same tokens before the terminal one unless it fails.
-/

namespace FieldPredicate.Expr

/-- Nothing stands before the terminal tokens of the two lists, which are the same fault, or none
is a fault. -/
structure EndAlike (tail tail' : List Token) : Prop where
  left : Terminated tail
  right : Terminated tail'
  fault : endingError? tail = endingError? tail'

/-- Answers on two lists that end alike: the same expression with the same tokens left over before
the ends, or the same error. -/
inductive SameAnswer (tail tail' : List Token) :
    Except ParseError Expr × List Token → Except ParseError Expr × List Token → Prop
  | read (e : Expr) {more : List Token} : (∀ token ∈ more, token.isTerminal = false) →
      SameAnswer tail tail' (.ok e, more ++ tail) (.ok e, more ++ tail')
  | failed (error : ParseError) (rest rest' : List Token) :
      SameAnswer tail tail' (.error error, rest) (.error error, rest')

/-- The reader gives the same answer before both ends. -/
def Indifferent (tail tail' : List Token) (reader : Reader) : Prop :=
  ∀ front, (∀ token ∈ front, token.isTerminal = false) →
    SameAnswer tail tail' (reader (front ++ tail)) (reader (front ++ tail'))

/-! ## What the end of the tokens is taken for -/

section Ends

variable {tail tail' : List Token}

theorem Terminated.head?_ne (h : Terminated tail) {kind : TokenKind}
    (hkind : kind.isTerminal = false) (text : String) : tail.head? ≠ some ⟨kind, text⟩ := by
  intro hhead
  have hterminal : kind.isTerminal = true := h _ hhead
  rw [hkind] at hterminal
  cases hterminal

theorem Terminated.unaryOp?_eq_none (h : Terminated tail) :
    tail.head?.bind (·.kind.unaryOp?) = none := by
  cases hop : tail.head?.bind (·.kind.unaryOp?) with
  | none => rfl
  | some op =>
      obtain ⟨token, hhead, hop⟩ := Option.bind_eq_some_iff.mp hop
      exact absurd hhead (h.head?_ne (TokenKind.isTerminal_of_unaryOp? hop) token.text)

theorem Terminated.opensAtom_eq_false (h : Terminated tail) :
    ∀ token, tail.head? = some token → opensAtom token = false := by
  intro token hhead
  rw [Bool.eq_false_iff]
  intro hopens
  have hterminal := h token hhead
  obtain ⟨kind, text⟩ := token
  rcases opensAtom_cases hopens with rfl | rfl | rfl | rfl <;> cases hterminal

theorem EndAlike.refusal_eq (h : EndAlike tail tail') (report : String → ParseError) :
    refusal report tail.head? = refusal report tail'.head? := by
  rw [h.left.refusal_eq, h.right.refusal_eq, h.fault]

end Ends

/-! ## Readers on lists that end alike -/

section Answers

variable {tail tail' rest rest' : List Token} {answer answer' : Except ParseError Expr × List Token}

/-- Both readers stop at the ends with an expression. -/
theorem SameAnswer.at_ends (e : Expr) (h : answer = (.ok e, tail)) (h' : answer' = (.ok e, tail')) :
    SameAnswer tail tail' answer answer' := by
  have hnil : ∀ token ∈ ([] : List Token), token.isTerminal = false := by simp
  rw [h, h']
  exact .read e hnil

/-- Both readers refuse the ends. -/
theorem EndAlike.refused (hends : EndAlike tail tail') {report : String → ParseError}
    (h : answer = (.error (refusal report tail.head?), rest))
    (h' : answer' = (.error (refusal report tail'.head?), rest')) :
    SameAnswer tail tail' answer answer' := by
  rw [h, h', hends.refusal_eq]
  exact .failed _ _ _

end Answers

section Readers

variable {tail tail' : List Token} {operand right inner : Reader} {level : Level}

theorem indifferent_selection (h : EndAlike tail tail') (name : String) :
    Indifferent tail tail' (readSelection name) := by
  intro front hfront
  match front with
  | [] =>
      apply SameAnswer.at_ends (.symbol name)
      · exact readSelection_alone (h.left.head?_ne rfl)
      · exact readSelection_alone (h.right.head?_ne rfl)
  | ⟨kind, text⟩ :: front =>
      cases kind with
      | period =>
          match front with
          | [] =>
              apply h.refused
              · exact readSelection_refused (h.left.head?_ne rfl)
              · exact readSelection_refused (h.right.head?_ne rfl)
          | ⟨kind, text⟩ :: front =>
              cases kind with
              | symbol =>
                  have hrest : ∀ token ∈ front, token.isTerminal = false := by
                    intro token hmem
                    exact hfront token (by simp [hmem])
                  exact .read _ hrest
              | _ => exact .failed _ _ _
      | _ => exact .read _ hfront

theorem indifferent_symbol (h : EndAlike tail tail') (name : String) :
    Indifferent tail tail' (readSymbol name) := by
  intro front hfront
  unfold readSymbol
  split
  · exact .read _ hfront
  · split
    · exact .read _ hfront
    · exact indifferent_selection h name front hfront

theorem Indifferent.group (hends : EndAlike tail tail') (h : Indifferent tail tail' inner) :
    Indifferent tail tail' (readGroup inner) := by
  intro front hfront
  have hinner := h front hfront
  generalize hanswer : inner (front ++ tail) = answer at hinner
  generalize hanswer' : inner (front ++ tail') = answer' at hinner
  cases hinner with
  | failed error rest rest' =>
      rw [readGroup_error hanswer, readGroup_error hanswer']
      exact .failed _ _ _
  | @read e more hmore =>
      match more with
      | [] =>
          apply hends.refused
          · exact readGroup_open hanswer (hends.left.head?_ne rfl)
          · exact readGroup_open hanswer' (hends.right.head?_ne rfl)
      | ⟨kind, text⟩ :: more =>
          obtain ⟨-, hrest⟩ := List.forall_mem_cons.mp hmore
          simp only [readGroup, hanswer, hanswer']
          cases kind with
          | rightParen => exact .read e hrest
          | _ => exact .failed _ _ _

theorem Indifferent.atom (hends : EndAlike tail tail') (h : Indifferent tail tail' inner) :
    Indifferent tail tail' (readAtom inner) := by
  intro front hfront
  match front with
  | [] =>
      apply hends.refused
      · exact readAtom_refused hends.left.opensAtom_eq_false
      · exact readAtom_refused hends.right.opensAtom_eq_false
  | ⟨kind, text⟩ :: front =>
      obtain ⟨-, hrest⟩ := List.forall_mem_cons.mp hfront
      cases kind with
      | leftParen => exact h.group hends front hrest
      | symbol => exact indifferent_symbol hends text front hrest
      | string => exact .read _ hrest
      | integer => exact .read _ hrest
      | _ => exact .failed _ _ _

theorem Indifferent.unary (hends : EndAlike tail tail') (hoperand : Indifferent tail tail' operand)
    (hinner : Indifferent tail tail' inner) :
    Indifferent tail tail' (readUnary operand inner) := by
  intro front hfront
  match front with
  | [] =>
      have hatom := hinner.atom hends [] hfront
      rw [List.nil_append, List.nil_append] at hatom ⊢
      rw [readUnary_atom hends.left.unaryOp?_eq_none, readUnary_atom hends.right.unaryOp?_eq_none]
      exact hatom
  | token :: front =>
      obtain ⟨-, hrest⟩ := List.forall_mem_cons.mp hfront
      cases hop : token.kind.unaryOp? with
      | none =>
          have hfree : ∀ rest, (token :: rest).head?.bind (·.kind.unaryOp?) = none := fun _ => hop
          have hatom := hinner.atom hends (token :: front) hfront
          rw [List.cons_append, List.cons_append] at hatom ⊢
          rw [readUnary_atom (hfree _), readUnary_atom (hfree _)]
          exact hatom
      | some op =>
          have hread := hoperand front hrest
          generalize hanswer : operand (front ++ tail) = answer at hread
          generalize hanswer' : operand (front ++ tail') = answer' at hread
          rw [List.cons_append, List.cons_append]
          cases hread with
          | failed error rest rest' =>
              rw [readUnary_error hop hanswer, readUnary_error hop hanswer']
              exact .failed _ _ _
          | read e hmore =>
              rw [readUnary_ok hop hanswer, readUnary_ok hop hanswer']
              exact .read _ hmore

theorem Indifferent.join (hends : EndAlike tail tail') (hoperand : Indifferent tail tail' operand)
    (hright : Indifferent tail tail' right) :
    Indifferent tail tail' (readInfix level operand right) := by
  intro front hfront
  have hread := hoperand front hfront
  generalize hleft : operand (front ++ tail) = answer at hread
  generalize hleft' : operand (front ++ tail') = answer' at hread
  cases hread with
  | failed error rest rest' =>
      rw [readInfix_error hleft, readInfix_error hleft']
      exact .failed _ _ _
  | @read e more hmore =>
      match more with
      | [] =>
          apply SameAnswer.at_ends e
          · exact readInfix_alone hleft (hends.left.stops level).1.joint?_eq_none
          · exact readInfix_alone hleft' (hends.right.stops level).1.joint?_eq_none
      | token :: more =>
          obtain ⟨-, hrest⟩ := List.forall_mem_cons.mp hmore
          have hhead : ∀ rest, joint? level (token :: rest) = joint? level [token] :=
            fun _ => joint?_congr rfl
          cases hjoint : joint? level [token] with
          | none =>
              rw [readInfix_alone hleft ((hhead _).trans hjoint),
                readInfix_alone hleft' ((hhead _).trans hjoint)]
              exact .read e hmore
          | some op =>
              obtain ⟨_, _, htoken, hop, hlevel⟩ := joint?_eq_some hjoint
              cases htoken
              have hread := hright more hrest
              generalize hanswer : right (more ++ tail) = answer at hread
              generalize hanswer' : right (more ++ tail') = answer' at hread
              cases hread with
              | failed error rest rest' =>
                  rw [readInfix_right_error hleft hop hlevel hanswer,
                    readInfix_right_error hleft' hop hlevel hanswer']
                  exact .failed _ _ _
              | read b hmore =>
                  rw [readInfix_joined hleft hop hlevel hanswer,
                    readInfix_joined hleft' hop hlevel hanswer']
                  exact .read _ hmore

end Readers

theorem readWithin_indifferent {tail tail' : List Token} (h : EndAlike tail tail') (steps : Nat)
    (level : Level) : Indifferent tail tail' (readWithin steps level) := by
  induction steps generalizing level with
  | zero =>
      intro front _
      exact .failed _ _ _
  | succ steps ih =>
      induction level using Level.tighter_induction with
      | unary =>
          rw [readWithin_unary]
          exact (ih .unary).unary h (ih .or)
      | looser level hlevel ihlevel =>
          rw [readWithin_join steps hlevel]
          exact ihlevel.join h (ih level)

/-! ## Whole token lists -/

section Parse

variable {tokens tail tail' : List Token}

theorem EndAlike.trailing_append_eq (hends : EndAlike tail tail')
    (h : ∀ token ∈ tokens, token.isTerminal = false) :
    trailing (tokens ++ tail) = trailing (tokens ++ tail') := by
  rw [trailing_append h, trailing_append h, hends.left.trailing_eq, hends.right.trailing_eq,
    hends.fault]

theorem parse_append_eq (hends : EndAlike tail tail')
    (h : ∀ token ∈ tokens, token.isTerminal = false) :
    parse (tokens ++ tail) = parse (tokens ++ tail') := by
  have hread : SameAnswer tail tail' (read (tokens ++ tail)) (read (tokens ++ tail')) :=
    readWithin_indifferent hends (maxDepth + 1) .or tokens h
  generalize hanswer : read (tokens ++ tail) = answer at hread
  generalize hanswer' : read (tokens ++ tail') = answer' at hread
  cases hread with
  | failed error rest rest' =>
      rw [parse_of_read_error hanswer, parse_of_read_error hanswer']
  | read e hmore =>
      simp only [parse, hanswer, hanswer', hends.trailing_append_eq hmore]

/-- A fault behind the tokens is never passed over, and never counted among tokens left over. -/
theorem parse_before_fault (h : ∀ token ∈ tokens, token.isTerminal = false) (cause : LexError)
    (text : String) :
    (∀ e, parse (tokens ++ [⟨.error cause, text⟩]) ≠ .ok e) ∧
      ∀ texts, parse (tokens ++ [⟨.error cause, text⟩]) ≠ .error (.trailingTokens texts) := by
  rcases settles_or_parse_lex h cause text with ⟨error, hsettles, hblames⟩ | hlex
  · have hparse : parse (tokens ++ [⟨.error cause, text⟩]) = .error error := hsettles _
    rw [hparse]
    refine ⟨by simp, ?_⟩
    rintro texts heq
    cases heq
    rcases hblames with heq | ⟨token, -, report, hreport, heq⟩
    · cases heq
    · cases hreport <;> cases heq
  · rw [hlex]
    exact ⟨by simp, by simp⟩

end Parse

/-- The end of the text means the same as no token at all, and what stands behind it plays no part.
Nor does what stands behind a fault, which makes the tokens before it neither an expression nor one
with tokens left over. -/
theorem parse_up_to_terminal {tokens : List Token}
    (h : ∀ token ∈ tokens, token.isTerminal = false) (junk : List Token) (closing text : String)
    (cause : LexError) :
    parse (tokens ++ [⟨.eof, closing⟩]) = parse tokens ∧
      parse (tokens ++ [⟨.eof, closing⟩] ++ junk) = parse tokens ∧
      parse (tokens ++ [⟨.error cause, text⟩] ++ junk) = parse (tokens ++ [⟨.error cause, text⟩]) ∧
      (∀ e, parse (tokens ++ [⟨.error cause, text⟩]) ≠ .ok e) ∧
      ∀ texts, parse (tokens ++ [⟨.error cause, text⟩]) ≠ .error (.trailingTokens texts) := by
  have hnone : Terminated [] := by simp [Terminated]
  have heof : ∀ more, parse (tokens ++ ⟨.eof, closing⟩ :: more) = parse tokens := by
    intro more
    have hends : EndAlike (⟨.eof, closing⟩ :: more) [] := ⟨terminated_eof closing more, hnone, rfl⟩
    rw [parse_append_eq hends h, List.append_nil]
  have hfault : EndAlike (⟨.error cause, text⟩ :: junk) [⟨.error cause, text⟩] :=
    ⟨terminated_of_isTerminal rfl junk, terminated_of_isTerminal rfl [], rfl⟩
  refine ⟨heof [], ?_, ?_, parse_before_fault h cause text⟩
  · rw [List.append_assoc]
    exact heof junk
  · rw [List.append_assoc]
    exact parse_append_eq hfault h

/-- Behind `(a` the end of the text is found in place of the parenthesis, also if one stands behind
the end. -/
theorem parse_up_to_terminal_in_group :
    (∀ token ∈ [Token.mk .leftParen "(", ⟨.symbol, "a"⟩], token.isTerminal = false) ∧
      parse [⟨.leftParen, "("⟩, ⟨.symbol, "a"⟩] =
        .error (.expectedClosingParen "end of input") ∧
      parse [⟨.leftParen, "("⟩, ⟨.symbol, "a"⟩, ⟨.eof, ""⟩, ⟨.rightParen, ")"⟩] =
        .error (.expectedClosingParen "end of input") := by
  have hopen : ∀ token ∈ [Token.mk .leftParen "(", ⟨.symbol, "a"⟩], token.isTerminal = false := by
    decide
  obtain ⟨-, hjunk, -⟩ :=
    parse_up_to_terminal hopen [⟨.rightParen, ")"⟩] "" "`" .unterminatedString
  have hparse : parse [⟨.leftParen, "("⟩, ⟨.symbol, "a"⟩] =
      .error (.expectedClosingParen "end of input") := rfl
  exact ⟨hopen, hparse, hjunk.trans hparse⟩

end FieldPredicate.Expr
