import FieldPredicate.Proofs.Expr.Acceptance
import FieldPredicate.Proofs.Token.Separated

/-!
# Printing an expression and reading it back

A printed expression falls into the tokens that one expects, and these are read as the expression
again while the parentheses that printing adds fit into the nesting limit. Past the limit the
reader runs out of steps, whatever else the expression holds. The expressions that parsing yields
are exactly of the kind that can be printed and read back.
-/

namespace FieldPredicate

/-- The kind of the token that an operator before an operand is read from. -/
def UnaryOp.kind : UnaryOp → TokenKind
  | .negate => .minus
  | .identity => .plus
  | .not => .not
  | .deref => .asterisk

def BinaryOp.kind : BinaryOp → TokenKind
  | .or => .logicalOr
  | .and => .logicalAnd
  | .equal => .equal
  | .notEqual => .notEqual
  | .less => .less
  | .lessEqual => .lessEqual
  | .greater => .greater
  | .greaterEqual => .greaterEqual
  | .add => .plus
  | .sub => .minus
  | .bitOr => .bitOr
  | .mul => .asterisk
  | .div => .slash
  | .bitAnd => .bitAnd
  | .shiftLeft => .shiftLeft
  | .shiftRight => .shiftRight

@[simp] theorem UnaryOp.unaryOp?_kind (op : UnaryOp) : op.kind.unaryOp? = some op := by
  cases op <;> rfl

@[simp] theorem BinaryOp.binaryOp?_kind (op : BinaryOp) : op.kind.binaryOp? = some op := by
  cases op <;> rfl

namespace Expr

/-- A name that text can spell: a letter and what may follow it, or the placeholder. -/
def Spellable (name : String) : Prop :=
  Lexeme .symbol name.toList

/-- The expression can be the result of parsing: its literals and names can be spelled, no string
holds a backtick, and no name is a boolean literal unless it is a member. -/
def WellFormed : Expr → Prop
  | .integer text => Lexeme .integer text.toList
  | .string value => '\x60' ∉ value.toList
  | .bool _ => True
  | .symbol name => Spellable name ∧ name ≠ "true" ∧ name ≠ "false"
  | .selector object member =>
      (Spellable object ∧ object ≠ "true" ∧ object ≠ "false") ∧ Spellable member
  | .unary _ operand => operand.WellFormed
  | .binary left _ right => left.WellFormed ∧ right.WellFormed

/-- How deeply the printed expression nests. -/
def nesting : Expr → Nat
  | .unary _ operand => 2 + operand.nesting
  | .binary left _ right => max (1 + left.nesting) (2 + right.nesting)
  | _ => 0

/-- The tokens of the printed expression. -/
def tokens : Expr → List Token
  | .integer text => [⟨.integer, text⟩]
  | .string value => [⟨.string, "`" ++ value ++ "`"⟩]
  | .bool value => [⟨.symbol, if value then "true" else "false"⟩]
  | .symbol name => [⟨.symbol, name⟩]
  | .selector object member => [⟨.symbol, object⟩, ⟨.period, "."⟩, ⟨.symbol, member⟩]
  | .unary op operand =>
      ⟨.leftParen, "("⟩ :: (⟨op.kind, op.spelling⟩ :: operand.tokens) ++ [⟨.rightParen, ")"⟩]
  | .binary left op right =>
      ⟨.leftParen, "("⟩ :: (left.tokens ++ ⟨op.kind, op.spelling⟩ :: right.tokens) ++
        [⟨.rightParen, ")"⟩]

/-! ## The printed text falls into the tokens -/

section Text

open Token (Separated)

theorem all_word_string {text : String} {kind : TokenKind} {rest : List Char}
    (h : Lexeme kind text.toList) (hrest : Separated rest) :
    Token.all (text.toList ++ rest) = ⟨kind, text⟩ :: Token.all rest := by
  rw [Token.all_word h hrest, String.ofList_toList]

theorem all_binaryOp (op : BinaryOp) (rest : List Char) :
    Token.all (op.spelling.toList ++ ' ' :: rest) =
      ⟨op.kind, op.spelling⟩ :: Token.all rest := by
  have hnext : Token.next (op.spelling.toList ++ ' ' :: rest) =
      (⟨op.kind, op.spelling⟩, ' ' :: rest) := by
    cases op <;> rfl
  rw [Token.all_cons hnext (TokenKind.isTerminal_of_binaryOp? op.binaryOp?_kind), Token.all_blank]

/-- An operator before an operand stays alone, since nothing printed begins with `=`. -/
theorem all_unaryOp (op : UnaryOp) {rest : List Char} (h : rest.head? ≠ some '=') :
    Token.all (op.spelling.toList ++ rest) = ⟨op.kind, op.spelling⟩ :: Token.all rest := by
  have hnext : Token.next (op.spelling.toList ++ rest) = (⟨op.kind, op.spelling⟩, rest) := by
    cases op with
    | not => exact Token.next_not h
    | _ => rfl
  exact Token.all_cons hnext (TokenKind.isTerminal_of_unaryOp? op.unaryOp?_kind)

theorem head?_word {text : String} {kind : TokenKind} (h : Lexeme kind text.toList)
    (hkind : Token.isWord kind) (rest : List Char) :
    (text.toList ++ rest).head? ≠ some '=' := by
  obtain ⟨c, tail, heq, hopens⟩ := Token.head_of_isWord h hkind
  have hne : c ≠ '=' := ne_of_holds hopens (by decide)
  rw [heq]
  simpa using hne

theorem head?_render {e : Expr} (h : e.WellFormed) (rest : List Char) :
    (e.render.toList ++ rest).head? ≠ some '=' := by
  cases e with
  | integer text => exact head?_word h (.inr (.inr rfl)) rest
  | string value => simp [render]
  | bool value => cases value <;> simp [render]
  | symbol name => exact head?_word h.1 (.inl rfl) rest
  | selector object member =>
      have hobject := head?_word h.1.1 (.inl rfl) ("." ++ member).toList
      simpa [render] using hobject
  | unary op operand => simp [render]
  | binary left op right => simp [render]

/-- In front of something separate a printed expression falls into its tokens. -/
theorem all_render {e : Expr} (h : e.WellFormed) {rest : List Char} (hrest : Separated rest) :
    Token.all (e.render.toList ++ rest) = e.tokens ++ Token.all rest := by
  have hclosing : ∀ rest, Separated (')' :: rest) :=
    Token.separated_cons (.inr (.inl rfl))
  induction e generalizing rest with
  | integer text => exact all_word_string h hrest
  | string value =>
      have hlexeme : Lexeme .string ("`" ++ value ++ "`").toList := by
        simpa using Lexeme.string h
      exact all_word_string hlexeme hrest
  | bool value =>
      have hlexeme : Lexeme .symbol (if value then "true" else "false").toList := by
        cases value <;> exact .symbol (by decide) (List.all_eq_true.mp (by decide))
      exact all_word_string hlexeme hrest
  | symbol name => exact all_word_string h.1 hrest
  | selector object member =>
      have hperiod : Separated ('.' :: (member.toList ++ rest)) :=
        Token.separated_cons (.inr (.inr rfl)) _
      have htext : (render (.selector object member)).toList ++ rest =
          object.toList ++ '.' :: (member.toList ++ rest) := by
        simp [render]
      rw [htext, all_word_string h.1.1 hperiod, Token.all_period,
        all_word_string h.2 hrest]
      rfl
  | unary op operand ih =>
      have htext : (render (.unary op operand)).toList ++ rest =
          '(' :: (op.spelling.toList ++ (operand.render.toList ++ ')' :: rest)) := by
        simp [render]
      have hoperand : operand.WellFormed := h
      rw [htext, Token.all_leftParen, all_unaryOp op (head?_render hoperand _),
        ih hoperand (hclosing rest), Token.all_rightParen]
      simp [tokens]
  | binary left op right ihl ihr =>
      have htext : (render (.binary left op right)).toList ++ rest =
          '(' :: (left.render.toList ++ ' ' :: (op.spelling.toList ++
            ' ' :: (right.render.toList ++ ')' :: rest))) := by
        simp [render]
      have hblank : ∀ rest, Separated (' ' :: rest) := Token.separated_cons (.inl rfl)
      rw [htext, Token.all_leftParen, ihl h.1 (hblank _), Token.all_blank, all_binaryOp,
        ihr h.2 (hclosing rest), Token.all_rightParen]
      simp [tokens]

theorem tokenize_render {e : Expr} (h : e.WellFormed) :
    tokenize e.render = e.tokens ++ [.eof] := by
  have hall := all_render h Token.separated_nil
  rw [List.append_nil] at hall
  rw [tokenize, hall, all_eq, Token.next_nil]
  rfl

end Text

/-! ## The tokens are read as the expression -/

/-- Within the nesting limit the grammar derives an expression from its printed tokens. -/
theorem derives_tokens {e : Expr} (h : e.WellFormed) {depth : Nat}
    (hdepth : depth + e.nesting ≤ maxDepth) : Derives depth .unary e.tokens e := by
  induction e generalizing depth with
  | integer text => exact .integer hdepth
  | string value =>
      have hderives : Derives depth .unary [⟨.string, "`" ++ value ++ "`"⟩]
          (.string (unquoted ("`" ++ value ++ "`"))) := .string hdepth
      rw [unquoted_quoted] at hderives
      exact hderives
  | bool value =>
      cases value with
      | true => exact .true hdepth
      | false => exact .false hdepth
  | symbol name => exact .symbol hdepth h.2.1 h.2.2
  | selector object member => exact .selector hdepth h.1.2.1 h.1.2.2
  | unary op operand ih =>
      simp only [nesting] at hdepth
      have hoperand : Derives (depth + 2) .unary operand.tokens operand := ih h (by omega)
      have hunary : Derives (depth + 1) .unary (⟨op.kind, op.spelling⟩ :: operand.tokens)
          (.unary op operand) := .unary (by omega) op.unaryOp?_kind hoperand
      exact .group (by omega) (hunary.loosen (Nat.zero_le _))
  | binary left op right ihl ihr =>
      simp only [nesting] at hdepth
      have hleft : Derives (depth + 1) .unary left.tokens left := ihl h.1 (by omega)
      have hright : Derives (depth + 2) .unary right.tokens right := ihr h.2 (by omega)
      have hbinary : Derives (depth + 1) op.level
          (left.tokens ++ ⟨op.kind, op.spelling⟩ :: right.tokens) (.binary left op right) :=
        .binary op.binaryOp?_kind (hleft.loosen (Level.tightness_le_unary _))
          (hright.loosen (Level.tightness_le_unary _))
      exact .group (by omega) (hbinary.loosen (Nat.zero_le _))

theorem parse_tokenize_of_nesting_le {e : Expr} (h : e.WellFormed) (hle : e.nesting ≤ maxDepth) :
    parse (tokenize e.render) = .ok e := by
  have hderives : Derives 0 .unary e.tokens e := derives_tokens h (by omega)
  rw [tokenize_render h]
  exact parse_derives (hderives.loosen (Nat.zero_le _)) ""

/-- An operator takes a printed operand as it is, if that is not yet as deep as can be. -/
theorem parse_tokenize_unary (op : UnaryOp) {e : Expr} (h : e.WellFormed)
    (hlt : e.nesting < maxDepth) :
    parse (tokenize (op.spelling ++ e.render)) = .ok (.unary op e) := by
  have htokens : tokenize (op.spelling ++ e.render) =
      (⟨op.kind, op.spelling⟩ :: e.tokens) ++ [.eof] := by
    have hhead := head?_render h []
    rw [List.append_nil] at hhead
    rw [tokenize, String.toList_append, all_unaryOp op hhead, ← tokenize, tokenize_render h,
      List.cons_append]
  have hoperand : Derives 1 .unary e.tokens e := derives_tokens h (by omega)
  have hderives : Derives 0 .unary (⟨op.kind, op.spelling⟩ :: e.tokens) (.unary op e) :=
    .unary (Nat.zero_le _) op.unaryOp?_kind hoperand
  rw [htokens]
  exact parse_derives (hderives.loosen (Nat.zero_le _)) ""

/-! ## Past the nesting limit -/

section Limit

variable {steps : Nat} {level tight : Level} {rest left : List Token} {error : ParseError}

/-- A failure of a tight level is one of every looser level. -/
theorem readWithin_error (hle : level.tightness ≤ tight.tightness)
    (h : readWithin (steps + 1) tight rest = (.error error, left)) :
    readWithin (steps + 1) level rest = (.error error, left) := by
  refine Level.of_tightness_le
    (motive := fun level => readWithin (steps + 1) level rest = (.error error, left)) h ?_ hle
  intro level hlevel herror
  rw [readWithin_join steps hlevel]
  exact readInfix_error herror

theorem readWithin_group_error {opening : String}
    (h : readWithin steps .or rest = (.error error, left)) (level : Level) :
    readWithin (steps + 1) level (⟨.leftParen, opening⟩ :: rest) = (.error error, left) := by
  apply readWithin_error level.tightness_le_unary
  rw [readWithin_unary]
  exact readGroup_error h

theorem readWithin_operator_error {token : Token} {op : UnaryOp}
    (hop : token.kind.unaryOp? = some op)
    (h : readWithin steps .unary rest = (.error error, left)) (level : Level) :
    readWithin (steps + 1) level (token :: rest) = (.error error, left) := by
  apply readWithin_error level.tightness_le_unary
  rw [readWithin_unary]
  exact readUnary_error hop h

/-- A printed expression that nests deeper than the steps left exhausts them. Its left operand is
either too deep itself or read within the limit, and then the right operand is too deep. -/
theorem readWithin_tokens_tooDeep {e : Expr} (h : e.WellFormed) {depth : Nat}
    (hsteps : depth + steps = maxDepth + 1) (hdeep : steps ≤ e.nesting) (level : Level)
    (rest : List Token) :
    ∃ left, readWithin steps level (e.tokens ++ rest) = (.error (.tooDeep maxDepth), left) := by
  induction e generalizing depth steps level rest with
  | unary op operand ih =>
      simp only [nesting] at hdeep
      rcases steps with _ | _ | steps
      · exact ⟨_, rfl⟩
      · exact ⟨_, readWithin_group_error rfl level⟩
      · have hoperand : operand.WellFormed := h
        have hnext : depth + 2 + steps = maxDepth + 1 := by omega
        obtain ⟨left, hread⟩ :=
          ih hoperand hnext (by omega) .unary (⟨.rightParen, ")"⟩ :: rest)
        have hinner : readWithin (steps + 1) .or (⟨op.kind, op.spelling⟩ ::
            (operand.tokens ++ ⟨.rightParen, ")"⟩ :: rest)) =
              (.error (.tooDeep maxDepth), left) :=
          readWithin_operator_error op.unaryOp?_kind hread .or
        refine ⟨left, ?_⟩
        simpa [tokens] using readWithin_group_error hinner level
  | binary l op r ihl ihr =>
      simp only [nesting] at hdeep
      rcases steps with _ | steps
      · exact ⟨_, rfl⟩
      have hnext : depth + 1 + steps = maxDepth + 1 := by omega
      -- The parenthesis takes one step; the right operand takes another one.
      suffices hinner : ∃ left, readWithin steps .or (l.tokens ++ ⟨op.kind, op.spelling⟩ ::
          (r.tokens ++ ⟨.rightParen, ")"⟩ :: rest)) = (.error (.tooDeep maxDepth), left) by
        obtain ⟨left, hinner⟩ := hinner
        refine ⟨left, ?_⟩
        simpa [tokens] using readWithin_group_error hinner level
      rcases Nat.lt_or_ge l.nesting steps with hlt | hge
      · rcases steps with _ | steps
        · exact ⟨_, rfl⟩
        have hleft : Derives (depth + 1) op.level.tighter l.tokens l :=
          (derives_tokens h.1 (by omega)).loosen (Level.tightness_le_unary _)
        have hlast : depth + 2 + steps = maxDepth + 1 := by omega
        obtain ⟨left, hright⟩ :=
          ihr h.2 hlast (by omega) op.level (⟨.rightParen, ")"⟩ :: rest)
        refine ⟨left, readWithin_error (Nat.zero_le op.level.tightness) ?_⟩
        rw [readWithin_join steps op.level_ne_unary]
        exact readInfix_right_error
          (readWithin_derives hleft hnext (stops_operator op.binaryOp?_kind _))
          op.binaryOp?_kind rfl hright
      · exact ihl h.1 hnext hge .or _
  | _ =>
      simp only [nesting, Nat.le_zero] at hdeep
      subst hdeep
      exact ⟨_, rfl⟩

end Limit

/-! ## What parsing yields can be printed -/

theorem wellFormed_string {text : String} (h : Lexeme .string text.toList) :
    '\x60' ∉ (unquoted text).toList := by
  generalize htext : text.toList = cs at h
  cases h with
  | spelling hmem => exact absurd (.inr (.inl rfl)) (Token.not_isWord_of_spelling hmem)
  | @string body hbody =>
      have hunquoted : unquoted text = String.ofList body := by
        simp [unquoted, htext]
      rw [hunquoted, String.toList_ofList]
      exact hbody

theorem wellFormed_of_derives {depth : Nat} {level : Level} {tokens : List Token} {e : Expr}
    (h : Derives depth level tokens e)
    (htokens : ∀ token ∈ tokens, Lexeme token.kind token.text.toList) : e.WellFormed := by
  induction h with
  | tighter _ _ ih => exact ih htokens
  | binary _ _ _ ihl ihr =>
      refine ⟨ihl fun token hmem => htokens token ?_, ihr fun token hmem => htokens token ?_⟩
      · exact List.mem_append_left _ hmem
      · exact List.mem_append_right _ (List.mem_cons_of_mem _ hmem)
  | unary _ _ _ ih => exact ih fun token hmem => htokens token (List.mem_cons_of_mem _ hmem)
  | group _ _ ih =>
      refine ih fun token hmem => htokens token ?_
      exact List.mem_append_left _ (List.mem_cons_of_mem _ hmem)
  | integer => exact htokens _ (List.mem_singleton_self _)
  | string => exact wellFormed_string (htokens _ (List.mem_singleton_self _))
  | true | false => trivial
  | symbol _ htrue hfalse => exact ⟨htokens _ (List.mem_singleton_self _), htrue, hfalse⟩
  | @selector depth object period member _ htrue hfalse =>
      have hobject := htokens ⟨.symbol, object⟩ (by simp)
      have hmember := htokens ⟨.symbol, member⟩ (by simp)
      exact ⟨⟨hobject, htrue, hfalse⟩, hmember⟩

theorem wellFormed_of_parse {source : String} {e : Expr} (h : parse (tokenize source) = .ok e) :
    e.WellFormed := by
  obtain ⟨used, rest, htokens, hderives, _⟩ := exists_derives_of_parse h
  have hsplits : Splits source.toList (used ++ rest) := htokens ▸ splits_all source.toList
  refine wellFormed_of_derives hderives ?_
  intro token hmem
  exact lexeme_of_splits hsplits (List.mem_append_left rest hmem)
    (isTerminal_of_derives hderives token hmem)

/-- Parsing yields expressions that can be spelled. Each of them is read back as it was from its
printed text, unless the parentheses of the printed text nest past the limit. -/
theorem parse_tokenize_render :
    (∀ (source : String) (e : Expr), parse (tokenize source) = .ok e → e.WellFormed) ∧
      ∀ e : Expr, e.WellFormed →
        parse (tokenize e.render) =
          if e.nesting ≤ maxDepth then .ok e else .error (.tooDeep maxDepth) := by
  constructor
  · intro source e h
    exact wellFormed_of_parse h
  · intro e h
    split
    · rename_i hle
      exact parse_tokenize_of_nesting_le h hle
    · rename_i hgt
      have hsteps : 0 + (maxDepth + 1) = maxDepth + 1 := Nat.zero_add _
      rw [tokenize_render h]
      obtain ⟨left, hread⟩ := readWithin_tokens_tooDeep h hsteps (by omega) .or [.eof]
      exact parse_of_read_error hread

/-- A member of the placeholder, negated, and a string that holds a blank. -/
theorem parse_negated_member_plus_string :
    (Expr.binary (.unary .negate (.selector "?" "x1")) .add (.string "a b")).WellFormed ∧
      parse (tokenize "((-?.x1) + `a b`)") =
        .ok (.binary (.unary .negate (.selector "?" "x1")) .add (.string "a b")) := by
  have hmember : Spellable "x1" := .symbol (by decide) (List.all_eq_true.mp (by decide))
  have hstring : '\x60' ∉ "a b".toList := by decide
  have hform : (Expr.binary (.unary .negate (.selector "?" "x1")) .add
      (.string "a b")).WellFormed :=
    ⟨⟨⟨.placeholder, by decide, by decide⟩, hmember⟩, hstring⟩
  have hread := parse_tokenize_render.2 _ hform
  have hprint : (Expr.binary (.unary .negate (.selector "?" "x1")) .add (.string "a b")).render =
      "((-?.x1) + `a b`)" := by decide
  rw [if_pos (by decide), hprint] at hread
  exact ⟨parse_tokenize_render.1 _ _ hread, hread⟩

end Expr

end FieldPredicate
