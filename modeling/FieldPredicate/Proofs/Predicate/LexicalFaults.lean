import FieldPredicate.Proofs.Check.FailFast
import FieldPredicate.Proofs.Expr.EarliestError
import FieldPredicate.Proofs.Token.Layout

/-!
# When a lexical fault is reported

The tokens of faulty text end in the fault, and reading looks at one token after the other. It may
come to an error before the fault, which then is the answer whatever follows, and the fault stays
hidden. In all other cases the fault is met: as the next token, or among the tokens that are left
over behind an expression. What reading answers is reported alike by everything that compiles the
text.
-/

namespace FieldPredicate

/-! ## Errors before the fault -/

namespace Expr

/-- Reading comes to the error within the tokens, so it is the answer whatever follows them. -/
def Settles (tokens : List Token) (error : ParseError) : Prop :=
  ∀ more, parse (tokens ++ more) = .error error

/-- The error is that the steps run out, or it names one of the tokens. -/
def Blames (tokens : List Token) (error : ParseError) : Prop :=
  error = .tooDeep maxDepth ∨
    ∃ token ∈ tokens, ∃ report, Expectation report ∧ error = report ("'" ++ token.text ++ "'")

section Settled

variable {tokens : List Token} {error other : ParseError}

theorem Settles.unique (h : Settles tokens error) (hother : Settles tokens other) :
    error = other := by
  have heq := (h []).symm.trans (hother [])
  exact Except.error.inj heq

/-- Reading the tokens before a fault comes to an error of theirs, or goes on to the fault. -/
theorem settles_or_parse_lex (h : ∀ token ∈ tokens, token.isTerminal = false) (cause : LexError)
    (text : String) :
    (∃ error, Settles tokens error ∧ Blames tokens error) ∨
      parse (tokens ++ [⟨.error cause, text⟩]) = .error (.lex cause) := by
  have htail : Terminated [⟨.error cause, text⟩] := terminated_of_isTerminal rfl []
  cases read_outcome (tokens ++ [⟨.error cause, text⟩]) with
  | formed used after e htokens hderives _ hread =>
      obtain ⟨more, rfl, rfl⟩ :=
        split_at_terminal htail (isTerminal_of_derives hderives) htokens
      have hmore : ∀ token ∈ more, token.isTerminal = false :=
        fun token hmem => h token (List.mem_append_right used hmem)
      have htrailing : trailing (more ++ [⟨.error cause, text⟩]) = .error (.lex cause) := by
        rw [trailing_append hmore]
        rfl
      right
      rw [List.append_assoc]
      exact parse_of_trailing_error (hread _ rfl) htrailing
  | tooDeep used after htokens hused hread =>
      obtain ⟨more, rfl, rfl⟩ := split_at_terminal htail hused htokens
      refine .inl ⟨.tooDeep maxDepth, ?_, .inl rfl⟩
      intro rest
      rw [List.append_assoc]
      exact parse_of_read_error (hread (more ++ rest))
  | refused used after report htokens hbegins hreport hread =>
      obtain ⟨more, rfl, rfl⟩ := split_at_terminal htail hbegins.isTerminal htokens
      cases more with
      | nil =>
          right
          rw [List.append_nil]
          exact parse_of_read_error (hread _ rfl)
      | cons token more =>
          have hmem : token ∈ used ++ token :: more := by simp
          refine .inl ⟨_, ?_, .inr ⟨token, hmem, report, hreport, rfl⟩⟩
          intro rest
          have hrefused := hread (token :: (more ++ rest)) rfl
          rw [List.head?_cons, refusal_of_not_terminal (h token hmem)] at hrefused
          rw [List.append_assoc, List.cons_append]
          exact parse_of_read_error hrefused

/-- What is settled cannot be a fault behind the tokens, as another fault may stand there. -/
theorem Settles.blames (hsettles : Settles tokens error)
    (h : ∀ token ∈ tokens, token.isTerminal = false) : Blames tokens error := by
  rcases settles_or_parse_lex h .unterminatedString "" with ⟨other, hother, hblames⟩ | hfirst
  · rw [hsettles.unique hother]
    exact hblames
  rcases settles_or_parse_lex h .unrecognized "" with ⟨other, hother, hblames⟩ | hsecond
  · rw [hsettles.unique hother]
    exact hblames
  rw [hsettles] at hfirst hsecond
  cases hfirst
  cases hsecond

theorem Blames.ofParse_eq (h : Blames tokens error) : Failure.ofParse error = .parse error := by
  rcases h with rfl | ⟨token, -, report, hreport, rfl⟩
  · rfl
  · cases hreport <;> rfl

end Settled

end Expr

/-! ## Where a failure of compiling shows -/

/-- The text does not compile for this reason, and everything that compiles the text says so: an
evaluation on any table, a check of any value, and a check of any structure that comes to a field
with the text as its predicate. -/
structure ReportedAs (source : String) (failure : Failure) : Prop where
  compile : ∀ name, Predicate.compile name source = .error failure
  evaluate : ∀ name table, evaluate name source table = .error failure
  checkValue : ∀ typeName value, checkValue typeName value source =
    .error ⟨typeName, placeholder, value.render, source, .failed failure⟩
  check : ∀ (record : Record) front field rest, record.fields = front ++ field :: rest →
    (∀ f ∈ front, f.Passes record.table) → field.predicate = some source →
      record.check =
        .error ⟨record.typeName, field.name, field.value.render, source, .failed failure⟩

theorem failsWith_of_compile {name text : String} {failure : Failure}
    (h : Predicate.compile name text = .error failure) (table : SymbolTable) :
    FailsWith name text table (.failed failure) := by
  cases failure with
  | lex error => exact .lex h
  | parse error => exact .parse h
  | eval error => exact absurd h (Predicate.compile_ne_eval error)

theorem reportedAs_of_parse {source : String} {error : ParseError}
    (h : Expr.parse (tokenize source) = .error error) : ReportedAs source (.ofParse error) := by
  have hcompile : ∀ name, Predicate.compile name source = .error (.ofParse error) := by
    intro name
    rw [Predicate.compile, h]
  refine ⟨hcompile, ?_, ?_, ?_⟩
  · intro name table
    rw [FieldPredicate.evaluate, hcompile]
  · intro typeName value
    have hfails := failsWith_of_compile (hcompile placeholder)
      (SymbolTable.empty.bind placeholder value)
    rw [FieldPredicate.checkValue, checkField, failureCause?_of_failsWith hfails]
  · intro record front field rest hfields hfront hpredicate
    apply Record.checkFields_of_failsFirst
    exact ⟨front, field, rest, hfields, hfront, source, _, hpredicate,
      failsWith_of_compile (hcompile field.name) _, rfl⟩

/-- Where text falls into tokens up to a lexical fault, the fault is the failure that is reported,
unless reading comes to an error before it. That error then names a token before the fault or is
the nesting limit, and is reported in place of the fault. -/
theorem lexical_fault_reported {source text : String} {front : List Token} {cause : LexError}
    (h : tokenize source = front ++ [⟨.error cause, text⟩]) :
    ((∀ error, ¬ Expr.Settles front error) →
      Expr.parse (tokenize source) = .error (.lex cause) ∧ ReportedAs source (.lex cause)) ∧
    ∀ error, Expr.Settles front error →
      Expr.Blames front error ∧ Expr.parse (tokenize source) = .error error ∧
        ReportedAs source (.parse error) := by
  have hfront := isTerminal_of_tokenize h
  have houtcome := Expr.settles_or_parse_lex hfront cause text
  rw [← h] at houtcome
  constructor
  · intro hnone
    rcases houtcome with ⟨error, hsettles, -⟩ | hlex
    · exact absurd hsettles (hnone error)
    · exact ⟨hlex, reportedAs_of_parse hlex⟩
  · intro error hsettles
    have hparse : Expr.parse (tokenize source) = .error error := h ▸ hsettles _
    have hblames := hsettles.blames hfront
    have hreported := reportedAs_of_parse hparse
    rw [hblames.ofParse_eq] at hreported
    exact ⟨hblames, hparse, hreported⟩

/-- The fault in `1 2 $` is reported, as the tokens before it are only left over. The parenthesis in
`) $` begins no expression, so it is reported and the fault is not. -/
theorem lexical_fault_behind_parenthesis :
    ReportedAs "1 2 $" (.lex (.unexpectedCharacter '$')) ∧
    Expr.parse (tokenize ") $") = .error (.unexpectedToken "')'") ∧
    ReportedAs ") $" (.parse (.unexpectedToken "')'")) := by
  have hleftOver : tokenize "1 2 $" =
      [⟨.integer, "1"⟩, ⟨.integer, "2"⟩] ++ [⟨.error (.unexpectedCharacter '$'), "$"⟩] := by
    decide +kernel
  have hparenthesis : tokenize ") $" =
      [⟨.rightParen, ")"⟩] ++ [⟨.error (.unexpectedCharacter '$'), "$"⟩] := by
    decide +kernel
  have hopen : ∀ error, ¬ Expr.Settles [⟨.integer, "1"⟩, ⟨.integer, "2"⟩] error := by
    intro error hsettles
    have heof := hsettles [.eof]
    have hfault := hsettles [⟨.error .unterminatedString, "`"⟩]
    rw [← heof] at hfault
    cases hfault
  have hsettled : Expr.Settles [⟨.rightParen, ")"⟩] (.unexpectedToken "')'") := fun _ => rfl
  obtain ⟨hreported, -⟩ := lexical_fault_reported hleftOver
  obtain ⟨-, hhidden⟩ := lexical_fault_reported hparenthesis
  exact ⟨(hreported hopen).2, (hhidden _ hsettled).2⟩

end FieldPredicate
