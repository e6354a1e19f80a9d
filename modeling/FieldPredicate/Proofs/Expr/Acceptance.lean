import FieldPredicate.Proofs.Expr.Reading

/-!
# The reader and the grammar accept the same

What the grammar derives is read, whatever stops the expression behind it. With the outcomes of
reading this gives both halves: a list of tokens forms an expression exactly if the grammar
derives it, and the grammar derives no second expression from the same tokens.
-/

namespace FieldPredicate.Expr

/-! ## What the grammar derives is read -/

/-- The tokens do not continue an expression of the level that stands before them. -/
def Stops (level : Level) (tokens : List Token) : Prop :=
  Ended level tokens ∧ ∀ period, tokens.head? ≠ some ⟨.period, period⟩

theorem Ended.tighter {level : Level} {tokens : List Token} (hlevel : level ≠ .unary)
    (h : Ended level tokens) : Ended level.tighter tokens := by
  intro token op hhead hop
  have hlt := h token op hhead hop
  rw [Level.tightness_tighter hlevel]
  omega

theorem Ended.joint?_eq_none {level : Level} {tokens : List Token} (h : Ended level tokens) :
    joint? level tokens = none := by
  cases hjoint : joint? level tokens with
  | none => rfl
  | some op =>
      obtain ⟨token, rest, rfl, hop, rfl⟩ := joint?_eq_some hjoint
      exact absurd (h token op rfl hop) (Nat.lt_irrefl _)

theorem Stops.tighter {level : Level} {tokens : List Token} (hlevel : level ≠ .unary)
    (h : Stops level tokens) : Stops level.tighter tokens :=
  ⟨h.1.tighter hlevel, h.2⟩

/-- A token that is no operator and no period stops expressions of every level. -/
theorem stops_of_head (level : Level) {tokens : List Token}
    (hop : ∀ token, tokens.head? = some token → token.kind.binaryOp? = none)
    (hperiod : ∀ token, tokens.head? = some token → token.kind ≠ .period) :
    Stops level tokens := by
  constructor
  · intro token op hhead hsome
    rw [hop token hhead] at hsome
    exact absurd hsome (by simp)
  · intro period hhead
    exact hperiod _ hhead rfl

theorem stops_rightParen (level : Level) (closing : String) (rest : List Token) :
    Stops level (⟨.rightParen, closing⟩ :: rest) := by
  apply stops_of_head
  · intro token hhead
    cases hhead
    rfl
  · intro token hhead
    cases hhead
    simp

theorem stops_operator {token : Token} {op : BinaryOp} (hop : token.kind.binaryOp? = some op)
    (rest : List Token) : Stops op.level.tighter (token :: rest) := by
  constructor
  · intro token' op' hhead hop'
    cases hhead
    rw [hop] at hop'
    cases hop'
    rw [Level.tightness_tighter op.level_ne_unary]
    omega
  · intro period hhead
    cases hhead
    exact absurd hop (by simp [TokenKind.binaryOp?])

/-- The reader with exactly the steps that the depth leaves reads what the grammar derives, and
leaves the rest. -/
theorem readWithin_derives {depth : Nat} {level : Level} {tokens : List Token} {e : Expr}
    (h : Derives depth level tokens e) {steps : Nat} (hsteps : depth + steps = maxDepth + 1)
    {rest : List Token} (hrest : Stops level rest) :
    readWithin steps level (tokens ++ rest) = (.ok e, rest) := by
  have hdepth : depth ≤ maxDepth := h.depth_le
  obtain ⟨steps, rfl⟩ : ∃ left, steps = left + 1 := ⟨steps - 1, by omega⟩
  induction h generalizing steps rest with
  | tighter hlevel hderives ih =>
      rw [readWithin_join steps hlevel]
      exact readInfix_alone (ih (hrest.tighter hlevel) hdepth steps hsteps)
        hrest.1.joint?_eq_none
  | @binary depth op token left right a b hop hleft hright ihl ihr =>
      have hnext : depth + 1 ≤ maxDepth := hright.depth_le
      obtain ⟨steps, rfl⟩ : ∃ left, steps = left + 1 := ⟨steps - 1, by omega⟩
      rw [readWithin_join _ op.level_ne_unary, List.append_assoc, List.cons_append]
      exact readInfix_joined (ihl (stops_operator hop _) hdepth _ hsteps) hop rfl
        (ihr hrest hnext steps (by omega))
  | @unary depth op token tokens e _ hop hderives ih =>
      have hnext : depth + 1 ≤ maxDepth := hderives.depth_le
      obtain ⟨steps, rfl⟩ : ∃ left, steps = left + 1 := ⟨steps - 1, by omega⟩
      rw [readWithin_unary, List.cons_append]
      exact readUnary_ok hop (ih hrest hnext steps (by omega))
  | @group depth opening closing tokens e _ hderives ih =>
      have hnext : depth + 1 ≤ maxDepth := hderives.depth_le
      obtain ⟨steps, rfl⟩ : ∃ left, steps = left + 1 := ⟨steps - 1, by omega⟩
      have hclosing : Stops .or (⟨.rightParen, closing⟩ :: rest) := stops_rightParen ..
      rw [readWithin_unary, List.append_assoc, List.cons_append]
      exact readGroup_closed (ih hclosing hnext steps (by omega))
  | integer | string | true | false => rfl
  | symbol _ htrue hfalse =>
      rw [readWithin_unary, List.singleton_append]
      exact (readSymbol_name htrue hfalse).trans (readSelection_alone hrest.2)
  | selector _ htrue hfalse => exact readSymbol_name htrue hfalse

theorem read_derives {tokens rest : List Token} {e : Expr} (h : Derives 0 .or tokens e)
    (hrest : Stops .or rest) : read (tokens ++ rest) = (.ok e, rest) :=
  readWithin_derives h rfl hrest

theorem read_outcome (tokens : List Token) : Outcome 0 .or read tokens := by
  have hsteps : 0 + (maxDepth + 1) = maxDepth + 1 := Nat.zero_add _
  exact readWithin_outcome hsteps .or tokens

/-! ## Whole token lists -/

section Parse

variable {tokens rest : List Token} {e : Expr}

theorem parse_of_read_error {error : ParseError} (h : read tokens = (.error error, rest)) :
    parse tokens = .error error := by
  simp [parse, h]

theorem parse_of_trailing_nil (h : read tokens = (.ok e, rest)) (hrest : trailing rest = .ok []) :
    parse tokens = .ok e := by
  simp [parse, h, hrest]

theorem parse_of_trailing_cons {text : String} {texts : List String}
    (h : read tokens = (.ok e, rest)) (hrest : trailing rest = .ok (text :: texts)) :
    parse tokens = .error (.trailingTokens (text :: texts)) := by
  simp [parse, h, hrest]

theorem parse_of_trailing_error {error : ParseError} (h : read tokens = (.ok e, rest))
    (hrest : trailing rest = .error error) : parse tokens = .error error := by
  simp [parse, h, hrest]

end Parse

theorem trailing_cons {token : Token} (h : token.isTerminal = false) (rest : List Token) :
    trailing (token :: rest) = (trailing rest).map (token.text :: ·) := by
  obtain ⟨kind, text⟩ := token
  cases kind with
  | eof => exact absurd h (by simp)
  | error => exact absurd h (by simp)
  | _ => rfl

theorem trailing_append {tokens : List Token} (h : ∀ token ∈ tokens, token.isTerminal = false)
    (rest : List Token) :
    trailing (tokens ++ rest) = (trailing rest).map (tokens.map (·.text) ++ ·) := by
  induction tokens with
  | nil => cases hrest : trailing rest <;> simp [hrest, Except.map]
  | cons token tokens ih =>
      obtain ⟨hhead, htail⟩ := List.forall_mem_cons.mp h
      rw [List.cons_append, trailing_cons hhead, ih htail]
      cases trailing rest <;> rfl

/-- Nothing stands in the list before its terminal token. -/
def Terminated (tokens : List Token) : Prop :=
  ∀ token, tokens.head? = some token → token.isTerminal = true

theorem terminated_of_isTerminal {token : Token} (h : token.isTerminal = true)
    (rest : List Token) : Terminated (token :: rest) := by
  intro other hhead
  cases hhead
  exact h

theorem terminated_eof (closing : String) (rest : List Token) :
    Terminated (⟨.eof, closing⟩ :: rest) :=
  terminated_of_isTerminal rfl rest

theorem Terminated.stops {tokens : List Token} (h : Terminated tokens) (level : Level) :
    Stops level tokens := by
  refine stops_of_head level ?_ ?_
  · intro token hhead
    have hterminal := h token hhead
    cases hop : token.kind.binaryOp? with
    | none => rfl
    | some op =>
        rw [Token.isTerminal, TokenKind.isTerminal_of_binaryOp? hop] at hterminal
        exact absurd hterminal (by simp)
  · intro token hhead hperiod
    have hterminal := h token hhead
    rw [Token.isTerminal, hperiod] at hterminal
    exact absurd hterminal (by simp [TokenKind.isTerminal])

/-- What is used of a list without its terminal token lies before that token. -/
theorem split_at_terminal {tokens tail used after : List Token} (htail : Terminated tail)
    (hused : ∀ token ∈ used, token.isTerminal = false) (h : tokens ++ tail = used ++ after) :
    ∃ more, tokens = used ++ more ∧ after = more ++ tail := by
  rcases List.append_eq_append_iff.mp h with ⟨extra, hextra, htailEq⟩ | ⟨more, htokens, hafter⟩
  -- The used part does not reach into the tail, whose first token is terminal.
  · cases extra with
    | nil => exact ⟨[], by simp [hextra], by simpa using htailEq.symm⟩
    | cons token extra =>
        have hterminal : token.isTerminal = true := htail token (by simp [htailEq])
        have hnot : token.isTerminal = false := hused token (by simp [hextra])
        rw [hterminal] at hnot
        exact absurd hnot (by simp)
  · exact ⟨more, htokens, hafter⟩

theorem parse_derives {tokens : List Token} {e : Expr} (h : Derives 0 .or tokens e)
    (closing : String) : parse (tokens ++ [⟨.eof, closing⟩]) = .ok e := by
  have hstops : Stops .or [⟨.eof, closing⟩] := (terminated_eof closing []).stops .or
  exact parse_of_trailing_nil (read_derives h hstops) rfl

/-- What is read is an expression of the grammar, whatever is left over behind it. -/
theorem exists_derives_of_read {tokens rest : List Token} {e : Expr}
    (h : read tokens = (.ok e, rest)) : ∃ used, tokens = used ++ rest ∧ Derives 0 .or used e := by
  cases read_outcome tokens with
  | formed used after a htokens hderives _ hread =>
      have hread := hread after rfl
      rw [← htokens, h] at hread
      cases hread
      exact ⟨used, htokens, hderives⟩
  | tooDeep used after htokens _ hread =>
      have hread := hread after
      rw [← htokens, h] at hread
      cases hread
  | refused used after report htokens _ _ hread =>
      have hread := hread after rfl
      rw [← htokens, h] at hread
      cases hread

theorem exists_derives_of_parse {tokens : List Token} {e : Expr} (h : parse tokens = .ok e) :
    ∃ used rest, tokens = used ++ rest ∧ Derives 0 .or used e ∧ trailing rest = .ok [] := by
  cases hread : read tokens with
  | mk result rest =>
      cases result with
      | error error =>
          rw [parse_of_read_error hread] at h
          cases h
      | ok a =>
          obtain ⟨used, htokens, hderives⟩ := exists_derives_of_read hread
          cases htrailing : trailing rest with
          | error error =>
              rw [parse_of_trailing_error hread htrailing] at h
              cases h
          | ok texts =>
              cases texts with
              | nil =>
                  rw [parse_of_trailing_nil hread htrailing] at h
                  cases h
                  exact ⟨used, rest, htokens, hderives, htrailing⟩
              | cons text texts =>
                  rw [parse_of_trailing_cons hread htrailing] at h
                  cases h

theorem derives_of_parse {tokens : List Token} {e : Expr} {closing : String}
    (h : ∀ token ∈ tokens, token.isTerminal = false)
    (hparse : parse (tokens ++ [⟨.eof, closing⟩]) = .ok e) : Derives 0 .or tokens e := by
  obtain ⟨used, rest, htokens, hderives, htrailing⟩ := exists_derives_of_parse hparse
  obtain ⟨more, rfl, rfl⟩ :=
    split_at_terminal (terminated_eof closing []) (isTerminal_of_derives hderives) htokens
  have hmore : ∀ token ∈ more, token.isTerminal = false :=
    fun token hmem => h token (List.mem_append_right used hmem)
  rw [trailing_append hmore] at htrailing
  have hnil : more = [] := by simpa [trailing, Except.map] using htrailing
  rw [hnil, List.append_nil]
  exact hderives

theorem derives_unique {depth : Nat} {level : Level} {tokens : List Token} {a b : Expr}
    (ha : Derives depth level tokens a) (hb : Derives depth level tokens b) : a = b := by
  have hdepth : depth ≤ maxDepth := ha.depth_le
  have hsteps : depth + (maxDepth + 1 - depth) = maxDepth + 1 := by omega
  have hstops : Stops level [] := Terminated.stops (by simp [Terminated]) level
  have hread := readWithin_derives ha hsteps hstops
  rw [readWithin_derives hb hsteps hstops] at hread
  cases hread
  rfl

/-- Tokens before the end of the text form an expression exactly if the grammar derives it from
them, and the grammar derives at most one expression from the same tokens. -/
theorem parse_eq_ok_iff_derives :
    (∀ (tokens : List Token) (closing : String) (e : Expr),
      (∀ token ∈ tokens, token.isTerminal = false) →
        (parse (tokens ++ [⟨.eof, closing⟩]) = .ok e ↔ Derives 0 .or tokens e)) ∧
      ∀ (depth : Nat) (level : Level) (tokens : List Token) (a b : Expr),
        Derives depth level tokens a → Derives depth level tokens b → a = b := by
  constructor
  · intro tokens closing e h
    constructor
    · exact derives_of_parse h
    · intro hderives
      exact parse_derives hderives closing
  · intro depth level tokens a b ha hb
    exact derives_unique ha hb

/-- A negated member, compared with a group: `-x.y == (a | 7)`. -/
theorem derives_negated_member_equal_group :
    (∀ token ∈ [Token.mk .minus "-", ⟨.symbol, "x"⟩, ⟨.period, "."⟩, ⟨.symbol, "y"⟩,
      ⟨.equal, "=="⟩, ⟨.leftParen, "("⟩, ⟨.symbol, "a"⟩, ⟨.bitOr, "|"⟩, ⟨.integer, "7"⟩,
      ⟨.rightParen, ")"⟩], token.isTerminal = false) ∧
    Derives 0 .or [⟨.minus, "-"⟩, ⟨.symbol, "x"⟩, ⟨.period, "."⟩, ⟨.symbol, "y"⟩,
      ⟨.equal, "=="⟩, ⟨.leftParen, "("⟩, ⟨.symbol, "a"⟩, ⟨.bitOr, "|"⟩, ⟨.integer, "7"⟩,
      ⟨.rightParen, ")"⟩]
      (.binary (.unary .negate (.selector "x" "y")) .equal
        (.binary (.symbol "a") .bitOr (.integer "7"))) := by
  refine ⟨by decide, ?_⟩
  exact (parse_eq_ok_iff_derives.1 _ "" _ (by decide)).mp rfl

end FieldPredicate.Expr
