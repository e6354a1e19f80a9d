import FieldPredicate.Proofs.Expr.Acceptance

/-!
# The nesting limit only cuts reading off

A reader with fewer nesting steps left gives the same answer as one with more steps, or says that
the steps ran out. So an expression that is put into a larger one is read as before, unless it then
nests past the limit.
-/

namespace FieldPredicate.Expr

/-- The first reader gives the answers of the second one, save where its steps run out. -/
def CutsOff (fewer more : Reader) : Prop :=
  ∀ tokens, fewer tokens = more tokens ∨ ∃ rest, fewer tokens = (.error (.tooDeep maxDepth), rest)

namespace CutsOff

variable {a b c operand operand' right right' inner inner' : Reader} {level : Level}

theorem refl (a : Reader) : CutsOff a a := by
  intro tokens
  exact .inl rfl

theorem trans (hab : CutsOff a b) (hbc : CutsOff b c) : CutsOff a c := by
  intro tokens
  rcases hab tokens with heq | hdeep
  · rw [heq]
    exact hbc tokens
  · exact .inr hdeep

theorem group (h : CutsOff inner inner') : CutsOff (readGroup inner) (readGroup inner') := by
  intro tokens
  rcases h tokens with heq | ⟨rest, hdeep⟩
  · left
    simp only [readGroup, heq]
  · exact .inr ⟨rest, readGroup_error hdeep⟩

theorem atom (h : CutsOff inner inner') : CutsOff (readAtom inner) (readAtom inner') := by
  intro tokens
  match tokens with
  | [] => exact .inl rfl
  | ⟨kind, text⟩ :: rest =>
      cases kind with
      | leftParen => exact h.group rest
      | _ => exact .inl rfl

theorem unary (hoperand : CutsOff operand operand') (hinner : CutsOff inner inner') :
    CutsOff (readUnary operand inner) (readUnary operand' inner') := by
  intro tokens
  cases hop : tokens.head?.bind (·.kind.unaryOp?) with
  | none =>
      rw [readUnary_atom hop, readUnary_atom hop]
      exact hinner.atom tokens
  | some op =>
      rcases hoperand tokens.tail with heq | ⟨rest, hdeep⟩
      · left
        simp only [readUnary, hop, heq]
      · right
        exact ⟨rest, by simp only [readUnary, hop, hdeep]⟩

theorem join (hoperand : CutsOff operand operand') (hright : CutsOff right right') :
    CutsOff (readInfix level operand right) (readInfix level operand' right') := by
  intro tokens
  rcases hoperand tokens with heq | ⟨rest, hdeep⟩
  · cases hanswer : operand' tokens with
    | mk result rest =>
        rw [hanswer] at heq
        cases result with
        | error error =>
            left
            rw [readInfix_error heq, readInfix_error hanswer]
        | ok e =>
            cases hjoint : joint? level rest with
            | none =>
                left
                rw [readInfix_alone heq hjoint, readInfix_alone hanswer hjoint]
            | some op =>
                obtain ⟨token, rest, rfl, hop, hlevel⟩ := joint?_eq_some hjoint
                rcases hright rest with hsame | ⟨left, hdeep⟩
                · left
                  simp only [readInfix, heq, hanswer, List.tail_cons, hsame]
                · right
                  exact ⟨left, readInfix_right_error heq hop hlevel hdeep⟩
  · right
    exact ⟨rest, readInfix_error hdeep⟩

/-- What is read before the steps run out is read with more steps too. -/
theorem eq_of_ok (h : CutsOff a b) {tokens rest : List Token} {e : Expr}
    (hread : a tokens = (.ok e, rest)) : b tokens = (.ok e, rest) := by
  rcases h tokens with heq | ⟨left, hdeep⟩
  · rw [← heq]
    exact hread
  · rw [hread] at hdeep
    cases hdeep

end CutsOff

theorem readWithin_succ_cutsOff (steps : Nat) (level : Level) :
    CutsOff (readWithin steps level) (readWithin (steps + 1) level) := by
  induction steps generalizing level with
  | zero =>
      intro tokens
      exact .inr ⟨tokens, rfl⟩
  | succ steps ih =>
      induction level using Level.tighter_induction with
      | unary =>
          rw [readWithin_unary, readWithin_unary]
          exact (ih .unary).unary (ih .or)
      | looser level hlevel ihlevel =>
          rw [readWithin_join steps hlevel, readWithin_join (steps + 1) hlevel]
          exact ihlevel.join (ih level)

theorem readWithin_cutsOff {fewer more : Nat} (h : fewer ≤ more) (level : Level) :
    CutsOff (readWithin fewer level) (readWithin more level) := by
  induction h with
  | refl => exact .refl _
  | step _ ih => exact ih.trans (readWithin_succ_cutsOff _ level)

/-! ## Groups around expressions -/

section Groups

variable {steps : Nat} {level : Level} {tokens rest : List Token} {e : Expr}

/-- An operand without operators is an expression of every level, if no operator follows it. -/
theorem readWithin_alone (h : readWithin (steps + 1) .unary tokens = (.ok e, rest))
    (hrest : Ended level rest) : readWithin (steps + 1) level tokens = (.ok e, rest) := by
  induction level using Level.tighter_induction with
  | unary => exact h
  | looser level hlevel ih =>
      rw [readWithin_join steps hlevel]
      apply readInfix_alone
      · exact ih (hrest.tighter hlevel)
      · exact hrest.joint?_eq_none

/-- With enough steps, an expression in parentheses is read as the expression. -/
theorem readWithin_group (h : Derives 0 .or tokens e) (hsteps : maxDepth < steps)
    (hrest : Ended level rest) (opening closing : String) :
    readWithin (steps + 1) level
      (⟨.leftParen, opening⟩ :: (tokens ++ ⟨.rightParen, closing⟩ :: rest)) = (.ok e, rest) := by
  apply readWithin_alone _ hrest
  rw [readWithin_unary]
  have hread : read (tokens ++ ⟨.rightParen, closing⟩ :: rest) =
      (.ok e, ⟨.rightParen, closing⟩ :: rest) := read_derives h (stops_rightParen ..)
  have hinner : readWithin steps .or (tokens ++ ⟨.rightParen, closing⟩ :: rest) =
      (.ok e, ⟨.rightParen, closing⟩ :: rest) :=
    (readWithin_cutsOff hsteps .or).eq_of_ok hread
  exact readGroup_closed hinner

/-- The tokens of two expressions in parentheses with `&&` between them. -/
def conjoinedTokens (first second : List Token) : List Token :=
  ⟨.leftParen, "("⟩ :: (first ++ ⟨.rightParen, ")"⟩ :: ⟨.logicalAnd, "&&"⟩ ::
    ⟨.leftParen, "("⟩ :: (second ++ [⟨.rightParen, ")"⟩, .eof]))

/-- With two steps more than there are, both groups are read. -/
theorem readWithin_conjoinedTokens {first second : List Token} {a b : Expr}
    (hfirst : Derives 0 .or first a) (hsecond : Derives 0 .or second b) :
    readWithin (maxDepth + 3) .or (conjoinedTokens first second) =
      (.ok (.binary a .and b), [.eof]) := by
  have heof : ∀ level, Ended level [.eof] := by
    intro level
    exact ((terminated_eof "" []).stops level).1
  have hop : (Token.mk .logicalAnd "&&").kind.binaryOp? = some .and := rfl
  have hleft : readWithin (maxDepth + 3) .comparison (conjoinedTokens first second) =
      (.ok a, ⟨.logicalAnd, "&&"⟩ :: ⟨.leftParen, "("⟩ ::
        (second ++ [⟨.rightParen, ")"⟩, .eof])) := by
    apply readWithin_group hfirst (by omega)
    exact (stops_operator hop _).1
  have hright : readWithin (maxDepth + 2) .and
      (⟨.leftParen, "("⟩ :: (second ++ [⟨.rightParen, ")"⟩, .eof])) = (.ok b, [.eof]) := by
    apply readWithin_group hsecond (by omega)
    exact heof .and
  have hand : readWithin (maxDepth + 3) .and (conjoinedTokens first second) =
      (.ok (.binary a .and b), [.eof]) := by
    have hlevel : Level.and ≠ .unary := by decide
    rw [readWithin_join (maxDepth + 2) hlevel]
    exact readInfix_joined hleft hop rfl hright
  have hlevel : Level.or ≠ .unary := by decide
  rw [readWithin_join (maxDepth + 2) hlevel]
  exact readInfix_alone hand (heof .or).joint?_eq_none

theorem parse_conjoinedTokens {first second : List Token} {a b : Expr}
    (hfirst : Derives 0 .or first a) (hsecond : Derives 0 .or second b) :
    parse (conjoinedTokens first second) = .ok (.binary a .and b) ∨
      parse (conjoinedTokens first second) = .error (.tooDeep maxDepth) := by
  have hmore := readWithin_conjoinedTokens hfirst hsecond
  have hlimit : CutsOff read (readWithin (maxDepth + 3) .or) := readWithin_cutsOff (by omega) .or
  rcases hlimit (conjoinedTokens first second) with hread | ⟨rest, hdeep⟩
  · left
    rw [hmore] at hread
    exact parse_of_trailing_nil hread rfl
  · right
    exact parse_of_read_error hdeep

end Groups

end FieldPredicate.Expr
