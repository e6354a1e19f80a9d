import FieldPredicate.Expr.Grammar

/-!
# How reading ends

A reader with some nesting steps left either forms an expression of its level, or runs out of
steps, or refuses the token that it looks at. `readWithin_outcome` says so for every list of
tokens, with the part of the list that decided the answer: whatever stands behind that part leaves
the answer as it is. What was read before a refused token always begins an expression, since
neither an operand nor a closing parenthesis nor a member nests any deeper than what lacks it.
-/

namespace FieldPredicate

def Level.tightness : Level → Nat
  | .or => 0
  | .and => 1
  | .comparison => 2
  | .additive => 3
  | .multiplicative => 4
  | .unary => 5

namespace Level

theorem tightness_tighter {level : Level} (h : level ≠ .unary) :
    level.tighter.tightness = level.tightness + 1 := by
  cases level <;> first | rfl | exact absurd rfl h

theorem eq_of_tightness_eq {a b : Level} (h : a.tightness = b.tightness) : a = b := by
  cases a <;> cases b <;> first | rfl | exact absurd h (by decide)

theorem tightness_le_unary (level : Level) : level.tightness ≤ Level.unary.tightness := by
  cases level <;> decide

/-- From the tightest level down to the loosest one. -/
theorem tighter_induction {motive : Level → Prop} (unary : motive .unary)
    (looser : ∀ level, level ≠ .unary → motive level.tighter → motive level) (level : Level) :
    motive level := by
  have hmul : motive .multiplicative := looser .multiplicative (by decide) unary
  have hadd : motive .additive := looser .additive (by decide) hmul
  have hcmp : motive .comparison := looser .comparison (by decide) hadd
  have hand : motive .and := looser .and (by decide) hcmp
  cases level with
  | or => exact looser .or (by decide) hand
  | and => exact hand
  | comparison => exact hcmp
  | additive => exact hadd
  | multiplicative => exact hmul
  | unary => exact unary

/-- What holds of a level and goes on to the looser ones holds of all levels that are no tighter. -/
theorem of_tightness_le {motive : Level → Prop} {tight : Level} (h : motive tight)
    (looser : ∀ level, level ≠ .unary → motive level.tighter → motive level) {level : Level}
    (hle : level.tightness ≤ tight.tightness) : motive level := by
  induction level using tighter_induction with
  | unary =>
      exact eq_of_tightness_eq (Nat.le_antisymm tight.tightness_le_unary hle) ▸ h
  | looser level hlevel ih =>
      rcases Nat.lt_or_eq_of_le hle with hlt | heq
      · apply looser level hlevel
        apply ih
        rw [tightness_tighter hlevel]
        omega
      · exact eq_of_tightness_eq heq ▸ h

end Level

theorem BinaryOp.level_ne_unary (op : BinaryOp) : op.level ≠ .unary := by
  cases op <;> decide

theorem TokenKind.isTerminal_of_binaryOp? {kind : TokenKind} {op : BinaryOp}
    (h : kind.binaryOp? = some op) : kind.isTerminal = false := by
  cases kind <;> first | rfl | simp [binaryOp?] at h

theorem TokenKind.isTerminal_of_unaryOp? {kind : TokenKind} {op : UnaryOp}
    (h : kind.unaryOp? = some op) : kind.isTerminal = false := by
  cases kind <;> first | rfl | simp [unaryOp?] at h

namespace Expr

/-! ## The readers, case by case -/

/-- The operator of the level that comes first, if one does. -/
def joint? (level : Level) (tokens : List Token) : Option BinaryOp :=
  (tokens.head?.bind (·.kind.binaryOp?)).filter (·.level = level)

theorem joint?_eq_some {level : Level} {tokens : List Token} {op : BinaryOp}
    (h : joint? level tokens = some op) :
    ∃ token rest, tokens = token :: rest ∧ token.kind.binaryOp? = some op ∧ op.level = level := by
  obtain ⟨hop, hlevel⟩ := Option.filter_eq_some_iff.mp h
  cases tokens with
  | nil => simp at hop
  | cons token rest => exact ⟨token, rest, rfl, by simpa using hop, by simpa using hlevel⟩

theorem joint?_congr {level : Level} {tokens more : List Token} (h : more.head? = tokens.head?) :
    joint? level more = joint? level tokens := by
  simp only [joint?, h]

section Readers

variable {level : Level} {operand right inner : Reader} {tokens rest rest' : List Token}
  {a b e : Expr} {error : ParseError}

theorem readInfix_error (h : operand tokens = (.error error, rest)) :
    readInfix level operand right tokens = (.error error, rest) := by
  simp [readInfix, h]

theorem readInfix_alone (h : operand tokens = (.ok a, rest)) (hop : joint? level rest = none) :
    readInfix level operand right tokens = (.ok a, rest) := by
  simp only [joint?] at hop
  simp [readInfix, h, hop]

theorem readInfix_joined {token : Token} {op : BinaryOp}
    (h : operand tokens = (.ok a, token :: rest)) (hop : token.kind.binaryOp? = some op)
    (hlevel : op.level = level) (hright : right rest = (.ok b, rest')) :
    readInfix level operand right tokens = (.ok (.binary a op b), rest') := by
  simp [readInfix, h, hop, hlevel, hright, Option.filter]

theorem readInfix_right_error {token : Token} {op : BinaryOp}
    (h : operand tokens = (.ok a, token :: rest)) (hop : token.kind.binaryOp? = some op)
    (hlevel : op.level = level) (hright : right rest = (.error error, rest')) :
    readInfix level operand right tokens = (.error error, rest') := by
  simp [readInfix, h, hop, hlevel, hright, Option.filter]

theorem readUnary_ok {token : Token} {op : UnaryOp} (hop : token.kind.unaryOp? = some op)
    (h : operand tokens = (.ok e, rest)) :
    readUnary operand inner (token :: tokens) = (.ok (.unary op e), rest) := by
  simp [readUnary, hop, h]

theorem readUnary_error {token : Token} {op : UnaryOp} (hop : token.kind.unaryOp? = some op)
    (h : operand tokens = (.error error, rest)) :
    readUnary operand inner (token :: tokens) = (.error error, rest) := by
  simp [readUnary, hop, h]

theorem readUnary_atom (h : tokens.head?.bind (·.kind.unaryOp?) = none) :
    readUnary operand inner tokens = readAtom inner tokens := by
  simp [readUnary, h]

theorem readGroup_closed {closing : String}
    (h : inner tokens = (.ok e, ⟨.rightParen, closing⟩ :: rest)) :
    readGroup inner tokens = (.ok e, rest) := by
  simp [readGroup, h]

theorem readGroup_open (h : inner tokens = (.ok e, rest))
    (hopen : ∀ closing, rest.head? ≠ some ⟨.rightParen, closing⟩) :
    readGroup inner tokens =
      (.error (refusal .expectedClosingParen rest.head?), rest.tail) := by
  unfold readGroup
  rw [h]
  split
  · rename_i heq
    cases heq
    exact absurd rfl (hopen _)
  · rename_i heq
    cases heq
    rfl
  · rename_i hne
    exact absurd rfl (hne e rest)

theorem readGroup_error (h : inner tokens = (.error error, rest)) :
    readGroup inner tokens = (.error error, rest) := by
  simp [readGroup, h]

theorem readSelection_refused {name period : String}
    (h : ∀ member, rest.head? ≠ some ⟨.symbol, member⟩) :
    readSelection name (⟨.period, period⟩ :: rest) =
      (.error (refusal .expectedMember rest.head?), rest.tail) := by
  unfold readSelection
  split
  · rename_i heq
    cases heq
    exact absurd rfl (h _)
  · rename_i heq
    cases heq
    rfl
  · rename_i hne
    exact absurd rfl (hne period rest)

theorem readSelection_alone {name : String}
    (h : ∀ period, tokens.head? ≠ some ⟨.period, period⟩) :
    readSelection name tokens = (.ok (.symbol name), tokens) := by
  unfold readSelection
  split
  · exact absurd rfl (h _)
  · exact absurd rfl (h _)
  · rfl

theorem readSymbol_name {name : String} (htrue : name ≠ "true") (hfalse : name ≠ "false") :
    readSymbol name tokens = readSelection name tokens := by
  simp [readSymbol, htrue, hfalse]

/-- The token begins an operand that has no operator before it. -/
def opensAtom (token : Token) : Bool :=
  match token.kind with
  | .leftParen | .symbol | .string | .integer => true
  | _ => false

theorem readAtom_refused (h : ∀ token, tokens.head? = some token → opensAtom token = false) :
    readAtom inner tokens = (.error (refusal .unexpectedToken tokens.head?), tokens.tail) := by
  unfold readAtom
  split
  · exact absurd (h _ rfl) (by simp [opensAtom])
  · exact absurd (h _ rfl) (by simp [opensAtom])
  · exact absurd (h _ rfl) (by simp [opensAtom])
  · exact absurd (h _ rfl) (by simp [opensAtom])
  · rfl

end Readers

theorem readWithin_unary (steps : Nat) :
    readWithin (steps + 1) .unary = readUnary (readWithin steps .unary) (readWithin steps .or) :=
  rfl

theorem readWithin_join (steps : Nat) {level : Level} (h : level ≠ .unary) :
    readWithin (steps + 1) level =
      readInfix level (readWithin (steps + 1) level.tighter) (readWithin steps level) := by
  cases level <;> first | rfl | exact absurd rfl h

/-! ## What the grammar says of prefixes -/

theorem Derives.loosen {depth : Nat} {tight level : Level} {tokens : List Token} {e : Expr}
    (h : Derives depth tight tokens e) (hle : level.tightness ≤ tight.tightness) :
    Derives depth level tokens e := by
  refine Level.of_tightness_le (motive := fun level => Derives depth level tokens e) h ?_ hle
  intro level hlevel hderives
  exact .tighter hlevel hderives

theorem isTerminal_of_derives {depth : Nat} {level : Level} {tokens : List Token} {e : Expr}
    (h : Derives depth level tokens e) : ∀ token ∈ tokens, token.isTerminal = false := by
  induction h with
  | tighter _ _ ih => exact ih
  | binary hop _ _ ihl ihr =>
      intro token hmem
      rcases List.mem_append.mp hmem with hleft | hright
      · exact ihl token hleft
      · rcases List.mem_cons.mp hright with rfl | hright
        · exact TokenKind.isTerminal_of_binaryOp? hop
        · exact ihr token hright
  | unary _ hop _ ih =>
      intro token hmem
      rcases List.mem_cons.mp hmem with rfl | hmem
      · exact TokenKind.isTerminal_of_unaryOp? hop
      · exact ih token hmem
  | group _ _ ih =>
      intro token hmem
      rcases List.mem_append.mp hmem with hinner | hclosing
      · rcases List.mem_cons.mp hinner with rfl | hinner
        · rfl
        · exact ih token hinner
      · rw [List.mem_singleton.mp hclosing]
        rfl
  | _ =>
      intro token hmem
      simp only [List.mem_cons, List.not_mem_nil, or_false] at hmem
      first
      | exact hmem ▸ rfl
      | rcases hmem with rfl | rfl | rfl <;> rfl

/-- The tokens are the beginning of an expression of the level at the depth. -/
def Begins (depth : Nat) (level : Level) (tokens : List Token) : Prop :=
  ∃ more e, Derives depth level (tokens ++ more) e

theorem begins_nil {depth : Nat} (h : depth ≤ maxDepth) (level : Level) :
    Begins depth level [] :=
  ⟨[⟨.symbol, "x"⟩], .symbol "x",
    (Derives.symbol h (by decide) (by decide)).loosen level.tightness_le_unary⟩

theorem Begins.isTerminal {depth : Nat} {level : Level} {tokens : List Token}
    (h : Begins depth level tokens) : ∀ token ∈ tokens, token.isTerminal = false := by
  obtain ⟨more, e, hderives⟩ := h
  intro token hmem
  exact isTerminal_of_derives hderives token (List.mem_append_left more hmem)

theorem Begins.tighter {depth : Nat} {level : Level} {tokens : List Token}
    (h : Begins depth level.tighter tokens) (hlevel : level ≠ .unary) :
    Begins depth level tokens := by
  obtain ⟨more, e, hderives⟩ := h
  exact ⟨more, e, .tighter hlevel hderives⟩

theorem Begins.right {depth : Nat} {op : BinaryOp} {token : Token} {left right : List Token}
    {a : Expr} (hop : token.kind.binaryOp? = some op)
    (hleft : Derives depth op.level.tighter left a) (h : Begins (depth + 1) op.level right) :
    Begins depth op.level (left ++ token :: right) := by
  obtain ⟨more, b, hright⟩ := h
  refine ⟨more, .binary a op b, ?_⟩
  rw [List.append_assoc, List.cons_append]
  exact .binary hop hleft hright

theorem Begins.operand {depth : Nat} {op : UnaryOp} {token : Token} {tokens : List Token}
    (hdepth : depth ≤ maxDepth) (hop : token.kind.unaryOp? = some op)
    (h : Begins (depth + 1) .unary tokens) : Begins depth .unary (token :: tokens) := by
  obtain ⟨more, e, hderives⟩ := h
  exact ⟨more, .unary op e, .unary hdepth hop hderives⟩

theorem Begins.group {depth : Nat} {opening : String} {tokens : List Token}
    (hdepth : depth ≤ maxDepth) (h : Begins (depth + 1) .or tokens) :
    Begins depth .unary (⟨.leftParen, opening⟩ :: tokens) := by
  obtain ⟨more, e, hderives⟩ := h
  refine ⟨more ++ [⟨.rightParen, ")"⟩], e, ?_⟩
  rw [← List.append_assoc]
  exact .group hdepth hderives

/-! ## The three ways in which reading ends -/

/-- What a refused token was expected to be. -/
inductive Expectation : (String → ParseError) → Prop
  | operand : Expectation .unexpectedToken
  | closing : Expectation .expectedClosingParen
  | member : Expectation .expectedMember

/-- No operator of the level or of a tighter one comes first. -/
def Ended (level : Level) (tokens : List Token) : Prop :=
  ∀ token op, tokens.head? = some token → token.kind.binaryOp? = some op →
    op.level.tightness < level.tightness

/-- How a reader ends on a list of tokens, of which it uses the first part. The answer depends on
the used part and the token behind it only, and without that token if the steps run out. -/
inductive Outcome (depth : Nat) (level : Level) (read : Reader) (tokens : List Token) : Prop
  | formed (used after : List Token) (e : Expr) :
      tokens = used ++ after → Derives depth level used e → Ended level after →
      (∀ more, more.head? = after.head? → read (used ++ more) = (.ok e, more)) →
      Outcome depth level read tokens
  | tooDeep (used after : List Token) :
      tokens = used ++ after → (∀ token ∈ used, token.isTerminal = false) →
      (∀ more, read (used ++ more) = (.error (.tooDeep maxDepth), more)) →
      Outcome depth level read tokens
  | refused (used after : List Token) (report : String → ParseError) :
      tokens = used ++ after → Begins depth level used → Expectation report →
      (∀ more, more.head? = after.head? →
        read (used ++ more) = (.error (refusal report more.head?), more.tail)) →
      Outcome depth level read tokens

theorem ended_unary (tokens : List Token) : Ended .unary tokens := by
  intro token op _ _
  cases op <;> decide

theorem Ended.of_tighter {level : Level} {tokens : List Token} (hlevel : level ≠ .unary)
    (h : Ended level.tighter tokens) (hjoint : joint? level tokens = none) :
    Ended level tokens := by
  intro token op hhead hop
  have hlt : op.level.tightness < level.tightness + 1 :=
    Level.tightness_tighter hlevel ▸ h token op hhead hop
  have hne : op.level.tightness ≠ level.tightness := by
    intro heq
    have hsome : joint? level tokens = some op := by
      simp [joint?, hhead, hop, Level.eq_of_tightness_eq heq, Option.filter]
    rw [hjoint] at hsome
    exact absurd hsome (by simp)
  omega

section Outcomes

variable {depth : Nat} {level : Level} {operand right inner : Reader}

theorem outcome_group (hdepth : depth ≤ maxDepth)
    (hinner : ∀ tokens, Outcome (depth + 1) .or inner tokens) (opening : String)
    (tokens : List Token) :
    Outcome depth .unary (readUnary operand inner) (⟨.leftParen, opening⟩ :: tokens) := by
  have hgroup : ∀ more,
      readUnary operand inner (⟨.leftParen, opening⟩ :: more) = readGroup inner more :=
    fun _ => rfl
  cases hinner tokens with
  | formed used after e htokens hderives _ hread =>
      by_cases hclosing : ∃ closing, after.head? = some ⟨.rightParen, closing⟩
      · obtain ⟨closing, hhead⟩ := hclosing
        obtain ⟨rest, rfl⟩ := List.head?_eq_some_iff.mp hhead
        refine .formed (⟨.leftParen, opening⟩ :: used ++ [⟨.rightParen, closing⟩]) rest e
          (by simp [htokens]) (.group hdepth hderives) (ended_unary rest) ?_
        intro more _
        have hinner : inner (used ++ ⟨.rightParen, closing⟩ :: more) =
            (.ok e, ⟨.rightParen, closing⟩ :: more) := hread _ rfl
        rw [List.append_assoc, List.cons_append, hgroup]
        exact readGroup_closed hinner
      · refine .refused (⟨.leftParen, opening⟩ :: used) after .expectedClosingParen
          (by simp [htokens]) (.group hdepth ⟨[], e, by simpa using hderives⟩) .closing ?_
        intro more hmore
        rw [List.cons_append, hgroup]
        apply readGroup_open (hread more hmore)
        intro closing hhead
        exact hclosing ⟨closing, hmore ▸ hhead⟩
  | tooDeep used after htokens hused hread =>
      refine .tooDeep (⟨.leftParen, opening⟩ :: used) after (by simp [htokens]) ?_ ?_
      · exact List.forall_mem_cons.mpr ⟨rfl, hused⟩
      · intro more
        exact readGroup_error (hread more)
  | refused used after report htokens hbegins hreport hread =>
      refine .refused (⟨.leftParen, opening⟩ :: used) after report (by simp [htokens])
        (hbegins.group hdepth) hreport ?_
      intro more hmore
      exact readGroup_error (hread more hmore)

theorem outcome_symbol (hdepth : depth ≤ maxDepth) (name : String) (tokens : List Token) :
    Outcome depth .unary (readUnary operand inner) (⟨.symbol, name⟩ :: tokens) := by
  have hsymbol : ∀ more,
      readUnary operand inner (⟨.symbol, name⟩ :: more) = readSymbol name more :=
    fun _ => rfl
  by_cases htrue : name = "true"
  · subst htrue
    exact .formed [⟨.symbol, "true"⟩] tokens (.bool true) rfl (.true hdepth)
      (ended_unary tokens) (fun _ _ => rfl)
  by_cases hfalse : name = "false"
  · subst hfalse
    exact .formed [⟨.symbol, "false"⟩] tokens (.bool false) rfl (.false hdepth)
      (ended_unary tokens) (fun _ _ => rfl)
  by_cases hperiod : ∃ period, tokens.head? = some ⟨.period, period⟩
  · obtain ⟨period, hhead⟩ := hperiod
    obtain ⟨rest, rfl⟩ := List.head?_eq_some_iff.mp hhead
    by_cases hmember : ∃ member, rest.head? = some ⟨.symbol, member⟩
    · obtain ⟨member, hhead⟩ := hmember
      obtain ⟨after, rfl⟩ := List.head?_eq_some_iff.mp hhead
      refine .formed [⟨.symbol, name⟩, ⟨.period, period⟩, ⟨.symbol, member⟩] after
        (.selector name member) rfl (.selector hdepth htrue hfalse) (ended_unary after) ?_
      intro more _
      exact readSymbol_name htrue hfalse
    · refine .refused [⟨.symbol, name⟩, ⟨.period, period⟩] rest .expectedMember rfl
        ⟨[⟨.symbol, "x"⟩], _, .selector hdepth htrue hfalse⟩ .member ?_
      intro more hmore
      rw [List.cons_append, hsymbol, readSymbol_name htrue hfalse]
      apply readSelection_refused
      intro member hhead
      exact hmember ⟨member, hmore ▸ hhead⟩
  · refine .formed [⟨.symbol, name⟩] tokens (.symbol name) rfl (.symbol hdepth htrue hfalse)
      (ended_unary tokens) ?_
    intro more hmore
    rw [List.singleton_append, hsymbol, readSymbol_name htrue hfalse]
    apply readSelection_alone
    intro period hhead
    exact hperiod ⟨period, hmore ▸ hhead⟩

theorem opensAtom_cases {kind : TokenKind} {text : String} (h : opensAtom ⟨kind, text⟩ = true) :
    kind = .leftParen ∨ kind = .symbol ∨ kind = .string ∨ kind = .integer := by
  cases kind <;> simp_all [opensAtom]

theorem outcome_operator {token : Token} {op : UnaryOp} (hdepth : depth ≤ maxDepth)
    (hop : token.kind.unaryOp? = some op)
    (hoperand : ∀ tokens, Outcome (depth + 1) .unary operand tokens) (tokens : List Token) :
    Outcome depth .unary (readUnary operand inner) (token :: tokens) := by
  cases hoperand tokens with
  | formed used after e htokens hderives _ hread =>
      refine .formed (token :: used) after (.unary op e) (by simp [htokens])
        (.unary hdepth hop hderives) (ended_unary after) ?_
      intro more hmore
      exact readUnary_ok hop (hread more hmore)
  | tooDeep used after htokens hused hread =>
      refine .tooDeep (token :: used) after (by simp [htokens]) ?_ ?_
      · exact List.forall_mem_cons.mpr ⟨TokenKind.isTerminal_of_unaryOp? hop, hused⟩
      · intro more
        exact readUnary_error hop (hread more)
  | refused used after report htokens hbegins hreport hread =>
      refine .refused (token :: used) after report (by simp [htokens])
        (hbegins.operand hdepth hop) hreport ?_
      intro more hmore
      exact readUnary_error hop (hread more hmore)

theorem outcome_unary (hdepth : depth ≤ maxDepth)
    (hoperand : ∀ tokens, Outcome (depth + 1) .unary operand tokens)
    (hinner : ∀ tokens, Outcome (depth + 1) .or inner tokens) (tokens : List Token) :
    Outcome depth .unary (readUnary operand inner) tokens := by
  cases hunary : tokens.head?.bind (·.kind.unaryOp?) with
  | some op =>
      obtain ⟨token, hhead, hop⟩ := Option.bind_eq_some_iff.mp hunary
      obtain ⟨rest, rfl⟩ := List.head?_eq_some_iff.mp hhead
      exact outcome_operator hdepth hop hoperand rest
  | none =>
      by_cases hopens : ∃ token, tokens.head? = some token ∧ opensAtom token = true
      · obtain ⟨⟨kind, text⟩, hhead, hopens⟩ := hopens
        obtain ⟨rest, rfl⟩ := List.head?_eq_some_iff.mp hhead
        rcases opensAtom_cases hopens with rfl | rfl | rfl | rfl
        · exact outcome_group hdepth hinner text rest
        · exact outcome_symbol hdepth text rest
        · exact .formed [⟨.string, text⟩] rest (.string (unquoted text)) rfl (.string hdepth)
            (ended_unary rest) (fun _ _ => rfl)
        · exact .formed [⟨.integer, text⟩] rest (.integer text) rfl (.integer hdepth)
            (ended_unary rest) (fun _ _ => rfl)
      · refine .refused [] tokens .unexpectedToken rfl (begins_nil hdepth .unary) .operand ?_
        intro more hmore
        rw [List.nil_append, readUnary_atom (hmore ▸ hunary)]
        apply readAtom_refused
        intro token hhead
        rw [Bool.eq_false_iff]
        intro hopen
        exact hopens ⟨token, hmore ▸ hhead, hopen⟩

theorem outcome_joined {op : BinaryOp} {token : Token} {used rest : List Token} {a : Expr}
    (hleft : Derives depth op.level.tighter used a)
    (hread : ∀ more, operand (used ++ token :: more) = (.ok a, token :: more))
    (hop : token.kind.binaryOp? = some op)
    (hright : Outcome (depth + 1) op.level right rest) :
    Outcome depth op.level (readInfix op.level operand right) (used ++ token :: rest) := by
  have hused : ∀ t ∈ used, t.isTerminal = false := isTerminal_of_derives hleft
  cases hright with
  | formed used' after b hrest hderives hended hright =>
      refine .formed (used ++ token :: used') after (.binary a op b) (by simp [hrest])
        (.binary hop hleft hderives) hended ?_
      intro more hmore
      rw [List.append_assoc, List.cons_append]
      exact readInfix_joined (hread _) hop rfl (hright more hmore)
  | tooDeep used' after hrest hused' hright =>
      refine .tooDeep (used ++ token :: used') after (by simp [hrest]) ?_ ?_
      · intro t hmem
        rcases List.mem_append.mp hmem with hmem | hmem
        · exact hused t hmem
        · rcases List.mem_cons.mp hmem with rfl | hmem
          · exact TokenKind.isTerminal_of_binaryOp? hop
          · exact hused' t hmem
      · intro more
        rw [List.append_assoc, List.cons_append]
        exact readInfix_right_error (hread _) hop rfl (hright more)
  | refused used' after report hrest hbegins hreport hright =>
      refine .refused (used ++ token :: used') after report (by simp [hrest])
        (hbegins.right hop hleft) hreport ?_
      intro more hmore
      rw [List.append_assoc, List.cons_append]
      exact readInfix_right_error (hread _) hop rfl (hright more hmore)

theorem outcome_join (hlevel : level ≠ .unary)
    (hoperand : ∀ tokens, Outcome depth level.tighter operand tokens)
    (hright : ∀ tokens, Outcome (depth + 1) level right tokens) (tokens : List Token) :
    Outcome depth level (readInfix level operand right) tokens := by
  cases hoperand tokens with
  | formed used after a htokens hderives hended hread =>
      subst htokens
      cases hjoint : joint? level after with
      | none =>
          refine .formed used after a rfl (.tighter hlevel hderives)
            (hended.of_tighter hlevel hjoint) ?_
          intro more hmore
          exact readInfix_alone (hread more hmore) (joint?_congr hmore ▸ hjoint)
      | some op =>
          obtain ⟨token, rest, rfl, hop, rfl⟩ := joint?_eq_some hjoint
          exact outcome_joined hderives (fun more => hread (token :: more) rfl) hop (hright rest)
  | tooDeep used after htokens hused hread =>
      refine .tooDeep used after htokens hused ?_
      intro more
      exact readInfix_error (hread more)
  | refused used after report htokens hbegins hreport hread =>
      refine .refused used after report htokens (hbegins.tighter hlevel) hreport ?_
      intro more hmore
      exact readInfix_error (hread more hmore)

end Outcomes

/-- Every reader ends in one of the three ways. The induction is on the steps left, and for each
number of steps from the tightest level to the loosest. -/
theorem readWithin_outcome {depth steps : Nat} (hsteps : depth + steps = maxDepth + 1)
    (level : Level) (tokens : List Token) :
    Outcome depth level (readWithin steps level) tokens := by
  induction steps generalizing depth level tokens with
  | zero => exact .tooDeep [] tokens rfl (by simp) (fun _ => rfl)
  | succ steps ih =>
      have hnext : depth + 1 + steps = maxDepth + 1 := by omega
      induction level using Level.tighter_induction generalizing tokens with
      | unary =>
          rw [readWithin_unary]
          exact outcome_unary (by omega) (ih hnext .unary) (ih hnext .or) tokens
      | looser level hlevel ihlevel =>
          rw [readWithin_join steps hlevel]
          exact outcome_join hlevel ihlevel (ih hnext level) tokens

end Expr

end FieldPredicate
