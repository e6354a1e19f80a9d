import FieldPredicate.Proofs.Expr.Acceptance

/-!
# Errors name the earliest token that can cause them

Tokens are viable if some continuation of them parses. An error that names a token names the one
behind the longest viable prefix, and the end of the input is named only behind tokens that are
viable as a whole. The three outcomes of reading give this at once: what was used before a refused
token begins an expression, and the answer is settled with that token, whatever follows it.
-/

namespace FieldPredicate.Expr

/-- Some continuation of the tokens parses. -/
def Viable (tokens : List Token) : Prop :=
  ∃ more e, parse (tokens ++ more) = .ok e

/-- The tokens form an expression as they stand. -/
def Complete (tokens : List Token) : Prop :=
  ∃ e, Derives 0 .or tokens e

/-- The prefix is viable, and no longer prefix of the tokens is. -/
structure LongestViable (front tokens : List Token) : Prop where
  starts : front <+: tokens
  viable : Viable front
  longest : ∀ longer, longer <+: tokens → Viable longer → longer.length ≤ front.length

/-- The tokens before the terminal one. -/
def beforeTerminal (tokens : List Token) : List Token :=
  tokens.takeWhile fun token => !token.isTerminal

/-- The lexing error that the tokens end in, if their terminal token is one. -/
def endingError? (tokens : List Token) : Option LexError :=
  match tokens.find? Token.isTerminal with
  | some ⟨.error cause, _⟩ => some cause
  | _ => none

/-! ## The end of the tokens -/

section Tail

variable {tokens tail : List Token}

theorem isTerminal_of_beforeTerminal (tokens : List Token) :
    ∀ token ∈ beforeTerminal tokens, token.isTerminal = false := by
  intro token hmem
  simpa using List.all_eq_true.mp List.all_takeWhile token hmem

theorem exists_beforeTerminal_append (tokens : List Token) :
    ∃ tail, Terminated tail ∧ tokens = beforeTerminal tokens ++ tail := by
  refine ⟨tokens.dropWhile fun token => !token.isTerminal, ?_, ?_⟩
  · intro token hhead
    have hnot := List.head?_dropWhile_not (fun token : Token => !token.isTerminal) tokens
    rw [hhead] at hnot
    simpa using hnot
  · exact List.takeWhile_append_dropWhile.symm

theorem endingError?_append (h : ∀ token ∈ tokens, token.isTerminal = false) :
    endingError? (tokens ++ tail) = endingError? tail := by
  have hfind : tokens.find? Token.isTerminal = none := by
    rw [List.find?_eq_none]
    intro token hmem
    simp [h token hmem]
  simp [endingError?, List.find?_append, hfind]

theorem Terminated.cases (h : Terminated tail) :
    tail = [] ∨ (∃ text rest, tail = ⟨.eof, text⟩ :: rest) ∨
      ∃ cause text rest, tail = ⟨.error cause, text⟩ :: rest := by
  cases tail with
  | nil => exact .inl rfl
  | cons token rest =>
      obtain ⟨kind, text⟩ := token
      have hterminal := h _ rfl
      cases kind with
      | eof => exact .inr (.inl ⟨text, rest, rfl⟩)
      | error cause => exact .inr (.inr ⟨cause, text, rest, rfl⟩)
      | _ => exact absurd hterminal (by simp [Token.isTerminal, TokenKind.isTerminal])

theorem Terminated.trailing_eq (h : Terminated tail) :
    trailing tail = match endingError? tail with
      | some cause => .error (.lex cause)
      | none => .ok [] := by
  rcases h.cases with rfl | ⟨text, rest, rfl⟩ | ⟨cause, text, rest, rfl⟩ <;> rfl

theorem Terminated.refusal_eq (h : Terminated tail) (report : String → ParseError) :
    refusal report tail.head? = match endingError? tail with
      | some cause => .lex cause
      | none => report "end of input" := by
  rcases h.cases with rfl | ⟨text, rest, rfl⟩ | ⟨cause, text, rest, rfl⟩ <;> rfl

theorem refusal_of_not_terminal {token : Token} (h : token.isTerminal = false)
    (report : String → ParseError) :
    refusal report (some token) = report ("'" ++ token.text ++ "'") := by
  obtain ⟨kind, text⟩ := token
  cases kind with
  | eof => exact absurd h (by simp)
  | error => exact absurd h (by simp)
  | _ => rfl

end Tail

/-! ## Viable prefixes -/

section Viability

variable {used tokens after : List Token} {token : Token}

theorem Viable.of_append (h : Viable (tokens ++ after)) : Viable tokens := by
  obtain ⟨more, e, hparse⟩ := h
  exact ⟨after ++ more, e, by rwa [← List.append_assoc]⟩

theorem Viable.of_append_cons (h : Viable (tokens ++ token :: after)) :
    Viable (tokens ++ [token]) := by
  have hshift : Viable ((tokens ++ [token]) ++ after) := by simpa using h
  exact hshift.of_append

theorem Begins.viable (h : Begins 0 .or used) : Viable used := by
  obtain ⟨more, e, hderives⟩ := h
  refine ⟨more ++ [⟨.eof, ""⟩], e, ?_⟩
  rw [← List.append_assoc]
  exact parse_derives hderives ""

theorem Complete.viable (h : Complete used) : Viable used := by
  obtain ⟨e, hderives⟩ := h
  exact ⟨[⟨.eof, ""⟩], e, parse_derives hderives ""⟩

theorem not_viable_of_read_error {error : ParseError}
    (h : ∀ more, ∃ rest, read (used ++ more) = (.error error, rest)) : ¬ Viable used := by
  rintro ⟨more, e, hparse⟩
  obtain ⟨rest, hread⟩ := h more
  rw [parse_of_read_error hread] at hparse
  cases hparse

/-- A token that is refused whatever stands behind it ends what is viable. -/
theorem not_viable_of_refused {report : String → ParseError}
    (h : ∀ more, more.head? = some token →
      read (used ++ more) = (.error (refusal report more.head?), more.tail)) :
    ¬ Viable (used ++ [token]) := by
  apply not_viable_of_read_error
  intro more
  exact ⟨more, by simpa using h (token :: more) rfl⟩

/-- A token that is left over makes the tokens before it a whole predicate or none. -/
theorem not_viable_of_left_over {e : Expr} (htoken : token.isTerminal = false)
    (h : ∀ more, read (used ++ token :: more) = (.ok e, token :: more)) :
    ¬ Viable (used ++ [token]) := by
  rintro ⟨more, e', hparse⟩
  rw [List.append_assoc, List.singleton_append] at hparse
  cases htrailing : trailing more with
  | error error =>
      have hrest : trailing (token :: more) = .error error := by
        rw [trailing_cons htoken, htrailing]
        rfl
      rw [parse_of_trailing_error (h more) hrest] at hparse
      cases hparse
  | ok texts =>
      have hrest : trailing (token :: more) = .ok (token.text :: texts) := by
        rw [trailing_cons htoken, htrailing]
        rfl
      rw [parse_of_trailing_cons (h more) hrest] at hparse
      cases hparse

theorem longestViable_append (hused : Viable used) (hnot : ¬ Viable (used ++ [token])) :
    LongestViable used (used ++ token :: after) := by
  refine ⟨List.prefix_append used _, hused, ?_⟩
  intro longer hprefix hviable
  have hbase : used ++ [token] <+: used ++ token :: after := ⟨after, by simp⟩
  rcases Nat.lt_or_ge used.length longer.length with hlt | hge
  · have hlen : (used ++ [token]).length ≤ longer.length := by
      rw [List.length_append, List.length_singleton]
      omega
    obtain ⟨rest, rfl⟩ := List.prefix_of_prefix_length_le hbase hprefix hlen
    exact absurd hviable.of_append hnot
  · exact hge

theorem exists_longestViable (h : ¬ Viable tokens) :
    ∃ front token after, tokens = front ++ token :: after ∧ LongestViable front tokens := by
  -- The front grows token by token as long as it stays viable.
  have hsearch : ∀ (rest front : List Token), Viable front → ¬ Viable (front ++ rest) →
      ∃ front' token after, front ++ rest = front' ++ token :: after ∧ Viable front' ∧
        ¬ Viable (front' ++ [token]) := by
    intro rest
    induction rest with
    | nil =>
        intro front hfront hnot
        exact absurd hfront (by simpa using hnot)
    | cons token rest ih =>
        intro front hfront hnot
        by_cases hnext : Viable (front ++ [token])
        · obtain ⟨front', token', after, heq, hviable, hlast⟩ :=
            ih (front ++ [token]) hnext (by simpa using hnot)
          exact ⟨front', token', after, by simpa using heq, hviable, hlast⟩
        · exact ⟨front, token, rest, rfl, hfront, hnext⟩
  have hnil : Viable [] := (begins_nil (Nat.zero_le _) .or).viable
  obtain ⟨front, token, after, heq, hviable, hlast⟩ := hsearch tokens [] hnil h
  have htokens : tokens = front ++ token :: after := heq
  exact ⟨front, token, after, htokens, htokens ▸ longestViable_append hviable hlast⟩

end Viability

/-! ## Where reading stops before the terminal token -/

section Stopping

variable {tokens tail : List Token}

/-- Viable tokens are used up. They are a whole predicate, or the reader refuses what ends them. -/
theorem read_of_viable (h : ∀ token ∈ tokens, token.isTerminal = false) (htail : Terminated tail)
    (hviable : Viable tokens) :
    (∃ e, Derives 0 .or tokens e ∧ read (tokens ++ tail) = (.ok e, tail)) ∨
      ∃ report, Expectation report ∧ ¬ Complete tokens ∧
        read (tokens ++ tail) = (.error (refusal report tail.head?), tail.tail) := by
  cases read_outcome (tokens ++ tail) with
  | formed used after e htokens hderives _ hread =>
      obtain ⟨more, rfl, rfl⟩ :=
        split_at_terminal htail (isTerminal_of_derives hderives) htokens
      cases more with
      | nil =>
          refine .inl ⟨e, by simpa using hderives, ?_⟩
          simpa using hread tail rfl
      | cons token more =>
          have hnot : ¬ Viable (used ++ [token]) :=
            not_viable_of_left_over (h token (by simp)) (fun rest => hread (token :: rest) rfl)
          exact absurd hviable.of_append_cons hnot
  | tooDeep used after htokens hused hread =>
      obtain ⟨more, rfl, rfl⟩ := split_at_terminal htail hused htokens
      have hnot : ¬ Viable used := not_viable_of_read_error fun rest => ⟨rest, hread rest⟩
      exact absurd hviable.of_append hnot
  | refused used after report htokens hbegins hreport hread =>
      obtain ⟨more, rfl, rfl⟩ := split_at_terminal htail hbegins.isTerminal htokens
      cases more with
      | nil =>
          have hrefused := hread tail rfl
          simp only [List.append_nil]
          refine .inr ⟨report, hreport, ?_, hrefused⟩
          rintro ⟨e, hderives⟩
          rw [read_derives hderives (htail.stops .or)] at hrefused
          cases hrefused
      | cons token more =>
          have hnot : ¬ Viable (used ++ [token]) := not_viable_of_refused hread
          exact absurd hviable.of_append_cons hnot

/-- Tokens that are not viable are read up to the token behind their longest viable prefix, unless
the steps run out. -/
theorem read_of_not_viable (h : ∀ token ∈ tokens, token.isTerminal = false)
    (htail : Terminated tail) (hviable : ¬ Viable tokens) :
    ∃ front token after, tokens = front ++ token :: after ∧ LongestViable front tokens ∧
      ((∃ rest, read (tokens ++ tail) = (.error (.tooDeep maxDepth), rest)) ∨
        (∃ report, Expectation report ∧
          read (tokens ++ tail) = (.error (refusal report (some token)), after ++ tail)) ∨
        ∃ e, Derives 0 .or front e ∧
          read (tokens ++ tail) = (.ok e, token :: after ++ tail)) := by
  cases read_outcome (tokens ++ tail) with
  | formed used after e htokens hderives _ hread =>
      obtain ⟨more, rfl, rfl⟩ :=
        split_at_terminal htail (isTerminal_of_derives hderives) htokens
      have hused : Complete used := ⟨e, hderives⟩
      cases more with
      | nil => exact absurd hused.viable (by simpa using hviable)
      | cons token more =>
          have hnot : ¬ Viable (used ++ [token]) :=
            not_viable_of_left_over (h token (by simp)) (fun rest => hread (token :: rest) rfl)
          refine ⟨used, token, more, rfl, longestViable_append hused.viable hnot, ?_⟩
          exact .inr (.inr ⟨e, hderives, by simpa using hread _ rfl⟩)
  | tooDeep used after htokens hused hread =>
      obtain ⟨front, token, after', heq, hlongest⟩ := exists_longestViable hviable
      exact ⟨front, token, after', heq, hlongest, .inl ⟨after, htokens ▸ hread after⟩⟩
  | refused used after report htokens hbegins hreport hread =>
      obtain ⟨more, rfl, rfl⟩ := split_at_terminal htail hbegins.isTerminal htokens
      cases more with
      | nil => exact absurd hbegins.viable (by simpa using hviable)
      | cons token more =>
          have hnot : ¬ Viable (used ++ [token]) := not_viable_of_refused hread
          refine ⟨used, token, more, rfl, longestViable_append hbegins.viable hnot, ?_⟩
          exact .inr (.inl ⟨report, hreport, by simpa using hread _ rfl⟩)

theorem parse_of_viable (h : ∀ token ∈ tokens, token.isTerminal = false)
    (htail : Terminated tail) (hviable : Viable tokens) :
    match endingError? tail with
    | some cause => parse (tokens ++ tail) = .error (.lex cause)
    | none =>
        (∀ e, Derives 0 .or tokens e → parse (tokens ++ tail) = .ok e) ∧
          (¬ Complete tokens →
            ∃ report, Expectation report ∧
              parse (tokens ++ tail) = .error (report "end of input")) := by
  rcases read_of_viable h htail hviable with
    ⟨e, hderives, hread⟩ | ⟨report, hreport, hopen, hread⟩
  · have htrailing := htail.trailing_eq
    split at htrailing
    · exact parse_of_trailing_error hread htrailing
    · refine ⟨?_, fun hopen => absurd ⟨e, hderives⟩ hopen⟩
      intro e' hderives'
      rw [derives_unique hderives' hderives]
      exact parse_of_trailing_nil hread htrailing
  · have hparse := parse_of_read_error hread
    rw [htail.refusal_eq report] at hparse
    split at hparse
    · exact hparse
    · exact ⟨fun e hderives => absurd ⟨e, hderives⟩ hopen, fun _ => ⟨report, hreport, hparse⟩⟩

theorem parse_left_over {front after : List Token} {token : Token} {e : Expr}
    (h : ∀ t ∈ token :: after, t.isTerminal = false) (htail : Terminated tail)
    (hread : read (front ++ token :: after ++ tail) = (.ok e, token :: after ++ tail)) :
    parse (front ++ token :: after ++ tail) =
      match endingError? tail with
      | some cause => .error (.lex cause)
      | none => .error (.trailingTokens ((token :: after).map (·.text))) := by
  have htrailing := trailing_append h tail
  rw [htail.trailing_eq] at htrailing
  split at htrailing
  · exact parse_of_trailing_error hread htrailing
  · exact parse_of_trailing_cons hread (by simpa [Except.map] using htrailing)

theorem parse_of_not_viable (h : ∀ token ∈ tokens, token.isTerminal = false)
    (htail : Terminated tail) (hviable : ¬ Viable tokens) :
    ∃ front token after, tokens = front ++ token :: after ∧ LongestViable front tokens ∧
      (parse (tokens ++ tail) = .error (.tooDeep maxDepth) ∨
        (∃ report, Expectation report ∧
          parse (tokens ++ tail) = .error (report ("'" ++ token.text ++ "'"))) ∨
        (Complete front ∧
          parse (tokens ++ tail) = match endingError? tail with
            | some cause => .error (.lex cause)
            | none => .error (.trailingTokens ((token :: after).map (·.text))))) := by
  obtain ⟨front, token, after, rfl, hlongest, hread⟩ := read_of_not_viable h htail hviable
  refine ⟨front, token, after, rfl, hlongest, ?_⟩
  rcases hread with ⟨rest, hread⟩ | ⟨report, hreport, hread⟩ | ⟨e, hderives, hread⟩
  · exact .inl (parse_of_read_error hread)
  · have hparse := parse_of_read_error hread
    rw [refusal_of_not_terminal (h token (by simp))] at hparse
    exact .inr (.inl ⟨report, hreport, hparse⟩)
  · have hafter : ∀ t ∈ token :: after, t.isTerminal = false :=
      fun t hmem => h t (List.mem_append_right front hmem)
    exact .inr (.inr ⟨⟨e, hderives⟩, parse_left_over hafter htail hread⟩)

end Stopping

/-- Behind viable tokens the answer is theirs: a lexing error stands as it is, and the end of the
input completes a predicate or is named as what is wrong. Tokens that are not viable nest too
deeply, or the token behind their longest viable prefix is named, or that prefix is a predicate
and the rest is left over; a lexing error behind the rest takes its place. -/
theorem parse_names_earliest_token (tokens : List Token) :
    (Viable (beforeTerminal tokens) →
      match endingError? tokens with
      | some cause => parse tokens = .error (.lex cause)
      | none =>
          (∀ e, Derives 0 .or (beforeTerminal tokens) e → parse tokens = .ok e) ∧
            (¬ Complete (beforeTerminal tokens) →
              ∃ report, Expectation report ∧ parse tokens = .error (report "end of input"))) ∧
    (¬ Viable (beforeTerminal tokens) →
      ∃ front token after, beforeTerminal tokens = front ++ token :: after ∧
        LongestViable front (beforeTerminal tokens) ∧
        (parse tokens = .error (.tooDeep maxDepth) ∨
          (∃ report, Expectation report ∧
            parse tokens = .error (report ("'" ++ token.text ++ "'"))) ∨
          (Complete front ∧
            parse tokens = match endingError? tokens with
              | some cause => .error (.lex cause)
              | none => .error (.trailingTokens ((token :: after).map (·.text)))))) := by
  obtain ⟨tail, htail, htokens⟩ := exists_beforeTerminal_append tokens
  have hbefore := isTerminal_of_beforeTerminal tokens
  have hending : endingError? tokens = endingError? tail := by
    rw [htokens]
    exact endingError?_append hbefore
  generalize beforeTerminal tokens = before at htokens hbefore ⊢
  subst htokens
  rw [hending]
  constructor
  · exact parse_of_viable hbefore htail
  · exact parse_of_not_viable hbefore htail

/-- The two cases at `(x $` and at `(x y)`. -/
theorem parse_names_earliest_token_in_group :
    (Viable (beforeTerminal [⟨.leftParen, "("⟩, ⟨.symbol, "x"⟩,
        ⟨.error (.unexpectedCharacter '$'), "$"⟩]) ∧
      parse [⟨.leftParen, "("⟩, ⟨.symbol, "x"⟩, ⟨.error (.unexpectedCharacter '$'), "$"⟩] =
        .error (.lex (.unexpectedCharacter '$'))) ∧
    ¬ Viable (beforeTerminal [⟨.leftParen, "("⟩, ⟨.symbol, "x"⟩, ⟨.symbol, "y"⟩,
        ⟨.rightParen, ")"⟩, ⟨.eof, ""⟩]) ∧
      ∃ front token after,
        [Token.mk .leftParen "(", ⟨.symbol, "x"⟩, ⟨.symbol, "y"⟩, ⟨.rightParen, ")"⟩] =
            front ++ token :: after ∧
          LongestViable front
            [⟨.leftParen, "("⟩, ⟨.symbol, "x"⟩, ⟨.symbol, "y"⟩, ⟨.rightParen, ")"⟩] := by
  have hviable : Viable [⟨.leftParen, "("⟩, ⟨.symbol, "x"⟩] :=
    ⟨[⟨.rightParen, ")"⟩], .symbol "x", rfl⟩
  have hnot : ¬ Viable [⟨.leftParen, "("⟩, ⟨.symbol, "x"⟩, ⟨.symbol, "y"⟩,
      ⟨.rightParen, ")"⟩] := by
    rintro ⟨more, e, hparse⟩
    have hrefused : parse ([⟨.leftParen, "("⟩, ⟨.symbol, "x"⟩, ⟨.symbol, "y"⟩,
        ⟨.rightParen, ")"⟩] ++ more) = .error (.expectedClosingParen "'y'") := rfl
    rw [hrefused] at hparse
    cases hparse
  obtain ⟨front, token, after, heq, hlongest, -⟩ :=
    (parse_names_earliest_token [⟨.leftParen, "("⟩, ⟨.symbol, "x"⟩, ⟨.symbol, "y"⟩,
      ⟨.rightParen, ")"⟩, ⟨.eof, ""⟩]).2 hnot
  have hlex := (parse_names_earliest_token [⟨.leftParen, "("⟩, ⟨.symbol, "x"⟩,
    ⟨.error (.unexpectedCharacter '$'), "$"⟩]).1 hviable
  exact ⟨⟨hviable, hlex⟩, hnot, front, token, after, heq, hlongest⟩

end FieldPredicate.Expr
