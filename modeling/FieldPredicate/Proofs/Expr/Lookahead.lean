import FieldPredicate.Expr.Streamed
import FieldPredicate.Proofs.Expr.Acceptance

/-!
# One token of lookahead suffices

Reading from a stream gives what reading from a list of tokens gives, since each reader takes the
tokens that its counterpart takes and looks at no token but the next. So it makes no difference
whether the next token was looked at before, and what is known of lists holds of streams: an
expression takes up the longest run of tokens that forms one, and only the token behind decides that
it ends there.
-/

namespace FieldPredicate.Expr

namespace Streamed

/-- On every stream of these tokens the reader gives the answer and leaves the rest. -/
def Gives {α : Type} (reader : Streamed α) (tokens : List Token) (answer : Except ParseError α)
    (rest : List Token) : Prop :=
  ∀ stream : Lookahead, stream.remaining = tokens →
    ∃ left, reader.run.run stream = (answer, left) ∧ left.remaining = rest

section Steps

variable {α β : Type} {reader : Streamed α} {more : α → Streamed β}
  {tokens rest rest' : List Token}

theorem gives_pure (a : α) (tokens : List Token) :
    Gives (pure a : Streamed α) tokens (.ok a) tokens := by
  intro stream h
  exact ⟨stream, rfl, h⟩

theorem gives_throw (error : ParseError) (tokens : List Token) :
    Gives (throw error : Streamed α) tokens (.error error) tokens := by
  intro stream h
  exact ⟨stream, rfl, h⟩

theorem gives_peek (tokens : List Token) : Gives peek tokens (.ok tokens.head?) tokens := by
  rintro stream rfl
  obtain ⟨hseen, hleft⟩ := stream.peek_eq
  exact ⟨stream.peek.2, hseen ▸ rfl, hleft⟩

theorem gives_next (tokens : List Token) : Gives next tokens (.ok tokens.head?) tokens.tail := by
  rintro stream rfl
  obtain ⟨htaken, hleft⟩ := stream.next_eq
  exact ⟨stream.next.2, htaken ▸ rfl, hleft⟩

theorem Gives.bind {a : α} {answer : Except ParseError β} (h : Gives reader tokens (.ok a) rest)
    (hmore : Gives (more a) rest answer rest') : Gives (reader >>= more) tokens answer rest' := by
  intro stream hstream
  obtain ⟨middle, hrun, hmiddle⟩ := h stream hstream
  obtain ⟨left, hthen, hleft⟩ := hmore middle hmiddle
  refine ⟨left, ?_, hleft⟩
  rw [ExceptT.run_bind, StateT.run_bind, hrun]
  exact hthen

theorem Gives.bind_error {error : ParseError} (h : Gives reader tokens (.error error) rest) :
    Gives (reader >>= more) tokens (.error error) rest := by
  intro stream hstream
  obtain ⟨left, hrun, hleft⟩ := h stream hstream
  refine ⟨left, ?_, hleft⟩
  rw [ExceptT.run_bind, StateT.run_bind, hrun]
  rfl

end Steps

/-! ## The readers on streams and on lists -/

/-- The reader on streams gives the answers of the reader on lists, and leaves the same tokens. -/
def Follows (reader : Streamed Expr) (list : Reader) : Prop :=
  ∀ tokens, Gives reader tokens (list tokens).1 (list tokens).2

theorem Follows.answer {reader : Streamed Expr} {list : Reader} (h : Follows reader list)
    (tokens : List Token) :
    (∃ e rest, list tokens = (.ok e, rest) ∧ Gives reader tokens (.ok e) rest) ∨
      ∃ error rest, list tokens = (.error error, rest) ∧
        Gives reader tokens (.error error) rest := by
  have hgives := h tokens
  cases hlist : list tokens with
  | mk result rest =>
      rw [hlist] at hgives
      cases result with
      | ok e => exact .inl ⟨e, rest, rfl, hgives⟩
      | error error => exact .inr ⟨error, rest, rfl, hgives⟩

theorem follows_selection (name : String) :
    Follows (readSelection name) (Expr.readSelection name) := by
  intro tokens
  refine (gives_peek tokens).bind ?_
  match tokens with
  | [] => exact gives_pure _ _
  | ⟨kind, text⟩ :: rest =>
      cases kind with
      | period =>
          refine (gives_next _).bind ((gives_next _).bind ?_)
          match rest with
          | [] => exact gives_throw _ _
          | ⟨kind, text⟩ :: rest =>
              cases kind with
              | symbol => exact gives_pure _ _
              | _ => exact gives_throw _ _
      | _ => exact gives_pure _ _

theorem follows_symbol (name : String) : Follows (readSymbol name) (Expr.readSymbol name) := by
  intro tokens
  unfold readSymbol Expr.readSymbol
  split
  · exact gives_pure _ _
  · split
    · exact gives_pure _ _
    · exact follows_selection name tokens

section Readers

variable {operand right inner : Streamed Expr} {operand' right' inner' : Reader}

theorem Follows.group (h : Follows inner inner') :
    Follows (readGroup inner) (Expr.readGroup inner') := by
  intro tokens
  unfold Expr.readGroup
  rcases h.answer tokens with ⟨e, rest, hlist, hinner⟩ | ⟨error, rest, hlist, hinner⟩
  · rw [hlist]
    refine hinner.bind ((gives_next _).bind ?_)
    match rest with
    | [] => exact gives_throw _ _
    | ⟨kind, text⟩ :: rest =>
        cases kind with
        | rightParen => exact gives_pure _ _
        | _ => exact gives_throw _ _
  · rw [hlist]
    exact hinner.bind_error

theorem Follows.atom (h : Follows inner inner') :
    Follows (readAtom inner) (Expr.readAtom inner') := by
  intro tokens
  refine (gives_next tokens).bind ?_
  match tokens with
  | [] => exact gives_throw _ _
  | ⟨kind, text⟩ :: rest =>
      cases kind with
      | leftParen => exact h.group rest
      | symbol => exact follows_symbol text rest
      | string => exact gives_pure _ _
      | integer => exact gives_pure _ _
      | _ => exact gives_throw _ _

theorem Follows.unary (hoperand : Follows operand operand') (hinner : Follows inner inner') :
    Follows (readUnary operand inner) (Expr.readUnary operand' inner') := by
  intro tokens
  refine (gives_peek tokens).bind ?_
  unfold Expr.readUnary
  cases tokens.head?.bind (·.kind.unaryOp?) with
  | none => exact hinner.atom tokens
  | some op =>
      refine (gives_next _).bind ?_
      rcases hoperand.answer tokens.tail with
        ⟨e, rest, hlist, hread⟩ | ⟨error, rest, hlist, hread⟩
      · simp only [hlist]
        exact hread.bind (gives_pure _ _)
      · simp only [hlist]
        exact hread.bind_error

theorem Follows.join (level : Level) (hoperand : Follows operand operand')
    (hright : Follows right right') :
    Follows (readInfix level operand right) (Expr.readInfix level operand' right') := by
  intro tokens
  unfold Expr.readInfix
  rcases hoperand.answer tokens with ⟨left, rest, hlist, hread⟩ | ⟨error, rest, hlist, hread⟩
  · simp only [hlist]
    refine hread.bind ((gives_peek _).bind ?_)
    cases (rest.head?.bind (·.kind.binaryOp?)).filter (·.level = level) with
    | none => exact gives_pure _ _
    | some op =>
        refine (gives_next _).bind ?_
        rcases hright.answer rest.tail with
          ⟨e, left, hlist, hread⟩ | ⟨error, left, hlist, hread⟩
        · simp only [hlist]
          exact hread.bind (gives_pure _ _)
        · simp only [hlist]
          exact hread.bind_error
  · simp only [hlist]
    exact hread.bind_error

end Readers

theorem readWithin_follows (steps : Nat) (level : Level) :
    Follows (readWithin steps level) (Expr.readWithin steps level) := by
  induction steps generalizing level with
  | zero => exact gives_throw _
  | succ steps ih =>
      have hunary := (ih .unary).unary (ih .or)
      have hmultiplicative := hunary.join .multiplicative (ih .multiplicative)
      have hadditive := hmultiplicative.join .additive (ih .additive)
      have hcomparison := hadditive.join .comparison (ih .comparison)
      have hand := hcomparison.join .and (ih .and)
      cases level with
      | unary => exact hunary
      | multiplicative => exact hmultiplicative
      | additive => exact hadditive
      | comparison => exact hcomparison
      | and => exact hand
      | or => exact hand.join .or (ih .or)

end Streamed

/-- Only the tokens that the stream will hand out decide the answer, not which of them it holds. -/
theorem ofStream_eq (stream : Lookahead) :
    (ofStream stream).1 = (read stream.remaining).1 ∧
      (ofStream stream).2.remaining = (read stream.remaining).2 := by
  obtain ⟨left, hrun, hleft⟩ := Streamed.readWithin_follows (maxDepth + 1) .or _ stream rfl
  have hstream : ofStream stream = ((read stream.remaining).1, left) := hrun
  rw [hstream]
  exact ⟨rfl, hleft⟩

theorem ofStream_congr {stream other : Lookahead} (h : other.remaining = stream.remaining) :
    (ofStream other).1 = (ofStream stream).1 ∧
      (ofStream other).2.remaining = (ofStream stream).2.remaining := by
  obtain ⟨hanswer, hleft⟩ := ofStream_eq stream
  obtain ⟨hanswer', hleft'⟩ := ofStream_eq other
  rw [hanswer, hleft, hanswer', hleft', h]
  exact ⟨rfl, rfl⟩

/-! ## What an expression takes up -/

section Read

variable {tokens rest : List Token} {e : Expr}

theorem read_suffix (tokens : List Token) : (read tokens).2 <:+ tokens := by
  cases read_outcome tokens with
  | formed used after e htokens _ _ hread =>
      rw [htokens, hread after rfl]
      exact List.suffix_append used after
  | tooDeep used after htokens _ hread =>
      rw [htokens, hread after]
      exact List.suffix_append used after
  | refused used after report htokens _ _ hread =>
      rw [htokens, hread after rfl]
      exact (List.tail_suffix after).trans (List.suffix_append used after)

/-- The expression ends where it does because of the next token, whatever stands behind that. -/
theorem exists_used_of_read (h : read tokens = (.ok e, rest)) :
    ∃ used, tokens = used ++ rest ∧ Derives 0 .or used e ∧ Ended .or rest ∧
      ∀ more, more.head? = rest.head? → read (used ++ more) = (.ok e, more) := by
  cases read_outcome tokens with
  | formed used after a htokens hderives hended hread =>
      have hsame := hread after rfl
      rw [← htokens, h] at hsame
      cases hsame
      exact ⟨used, htokens, hderives, hended, hread⟩
  | tooDeep used after htokens _ hread =>
      have hdeep := hread after
      rw [← htokens, h] at hdeep
      cases hdeep
  | refused used after report htokens _ _ hread =>
      have hrefused := hread after rfl
      rw [← htokens, h] at hrefused
      cases hrefused

/-- A longer expression would be read on over the token that ends this one. -/
theorem length_le_of_derives {used longer : List Token} {other : Expr}
    (hread : ∀ more, more.head? = rest.head? → read (used ++ more) = (.ok e, more))
    (hstarts : longer <+: used ++ rest) (hderives : Derives 0 .or longer other) :
    longer.length ≤ used.length := by
  rcases Nat.le_total longer.length used.length with hle | hge
  · exact hle
  obtain ⟨more, rfl⟩ : used <+: longer :=
    List.prefix_of_prefix_length_le (List.prefix_append used rest) hstarts hge
  have hmore : more <+: rest := (List.prefix_append_right_inj used).mp hstarts
  cases more with
  | nil => simp
  | cons token more =>
      have hhead : (token :: more ++ [Token.eof]).head? = rest.head? := by
        obtain ⟨after, rfl⟩ := hmore
        rfl
      have hstop : read (used ++ (token :: more ++ [Token.eof])) =
          (.ok e, token :: more ++ [Token.eof]) := hread _ hhead
      have hon : read (used ++ token :: more ++ [Token.eof]) = (.ok other, [Token.eof]) :=
        read_derives hderives ((terminated_eof "" []).stops .or)
      rw [List.append_assoc, hstop] at hon
      simp at hon

end Read

/-- The used tokens form the expression, and no more of them do. Before other tokens it is read all
the same if the first of these is the same, or cannot go on with any expression. -/
structure TakesUp (used : List Token) (e : Expr) (rest : List Token) : Prop where
  notTerminal : ∀ token ∈ used, token.isTerminal = false
  parses : ∀ closing, parse (used ++ [⟨.eof, closing⟩]) = .ok e
  noOperator : ∀ token, rest.head? = some token → token.kind.binaryOp? = none
  longest : ∀ longer other, longer <+: used ++ rest → Derives 0 .or longer other →
    longer.length ≤ used.length
  again : ∀ stream : Lookahead, ∀ more, stream.remaining = used ++ more →
    (more.head? = rest.head? ∨ ∀ token, more.head? = some token →
      token.kind.binaryOp? = none ∧ token.kind ≠ .period) →
    (ofStream stream).1 = .ok e ∧ (ofStream stream).2.remaining = more

theorem exists_takesUp_of_read {tokens rest : List Token} {e : Expr}
    (h : read tokens = (.ok e, rest)) : ∃ used, tokens = used ++ rest ∧ TakesUp used e rest := by
  obtain ⟨used, rfl, hderives, hended, hread⟩ := exists_used_of_read h
  refine ⟨used, rfl, isTerminal_of_derives hderives, parse_derives hderives, ?_, ?_, ?_⟩
  · intro token hhead
    cases hop : token.kind.binaryOp? with
    | none => rfl
    | some op => exact absurd (hended token op hhead hop) (Nat.not_lt_zero _)
  · intro longer other hstarts hlonger
    exact length_le_of_derives hread hstarts hlonger
  · intro stream more hstream hmore
    have hagain : read stream.remaining = (.ok e, more) := by
      rw [hstream]
      rcases hmore with hhead | hfree
      · exact hread more hhead
      · apply read_derives hderives
        apply stops_of_head
        · exact fun token hhead => (hfree token hhead).1
        · exact fun token hhead => (hfree token hhead).2
    obtain ⟨hanswer, hleft⟩ := ofStream_eq stream
    rw [hagain] at hanswer hleft
    exact ⟨hanswer, hleft⟩

/-- Reading leaves the end of the stream. It answers and leaves the same whether the next token was
looked at before or not, and looking at the next token afterwards leaves the stream as it is. An
expression takes up the tokens before those that are left, as many as can form one. -/
theorem ofStream_takes_one_expression (stream : Lookahead) :
    (ofStream stream).2.remaining <:+ stream.remaining ∧
      ((ofStream stream.peek.2).1 = (ofStream stream).1 ∧
        (ofStream stream.peek.2).2.remaining = (ofStream stream).2.remaining) ∧
      (ofStream stream).2.peek.2.remaining = (ofStream stream).2.remaining ∧
      ∀ e, (ofStream stream).1 = .ok e →
        ∃ used, stream.remaining = used ++ (ofStream stream).2.remaining ∧
          TakesUp used e (ofStream stream).2.remaining := by
  obtain ⟨hanswer, hleft⟩ := ofStream_eq stream
  refine ⟨?_, ofStream_congr stream.peek_eq.2, (ofStream stream).2.peek_eq.2, ?_⟩
  · rw [hleft]
    exact read_suffix stream.remaining
  · intro e he
    rw [hleft]
    apply exists_takesUp_of_read
    exact Prod.ext (hanswer.symm.trans he) rfl

/-- Of the tokens of `a.b * 2 ) c`, read after a look at the first, the member and the product are
taken up, and would be before the end of the tokens too. -/
theorem ofStream_takes_product_of_member :
    let tokens : List Token := [⟨.symbol, "a"⟩, ⟨.period, "."⟩, ⟨.symbol, "b"⟩, ⟨.asterisk, "*"⟩,
      ⟨.integer, "2"⟩]
    let e : Expr := .binary (.selector "a" "b") .mul (.integer "2")
    (ofStream (Lookahead.ofTokens (tokens ++ [⟨.rightParen, ")"⟩, ⟨.symbol, "c"⟩])).peek.2).1 =
        .ok e ∧
      TakesUp tokens e [⟨.rightParen, ")"⟩, ⟨.symbol, "c"⟩] ∧
      (ofStream (.ofTokens tokens)).1 = .ok e := by
  intro tokens e
  obtain ⟨-, ⟨hpeeked, -⟩, -, htakes⟩ := ofStream_takes_one_expression
    (.ofTokens (tokens ++ [⟨.rightParen, ")"⟩, ⟨.symbol, "c"⟩]))
  obtain ⟨used, hused, htakes⟩ := htakes e rfl
  have hsame : used = tokens := List.append_cancel_right hused.symm
  subst hsame
  refine ⟨hpeeked.trans rfl, htakes, ?_⟩
  exact (htakes.again (.ofTokens tokens) [] (List.append_nil tokens).symm (.inr (by simp))).1

end FieldPredicate.Expr
