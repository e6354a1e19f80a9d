import FieldPredicate.Proofs.Check.StructureValue
import FieldPredicate.Proofs.Expr.Acceptance
import FieldPredicate.Proofs.Token.Separated

/-!
# Field names in predicates

The fields of a structure are named by identifiers, and a predicate reads a field by its name. An
identifier may hold underscores and a symbol of a predicate may not, so a predicate can name
exactly the fields whose names have none.
-/

namespace FieldPredicate

def isIdentifierPart (c : Char) : Bool :=
  Token.isSymbolPart c || c = '_'

/-- A letter or underscore, followed by letters, digits and underscores, other than the two boolean
literals. -/
structure Identifier (name : String) : Prop where
  shape : ∃ c part, name.toList = c :: part ∧ (Text.isLetter c = true ∨ c = '_') ∧
    part.all isIdentifierPart = true
  notTrue : name ≠ "true"
  notFalse : name ≠ "false"

/-- The fields have distinct identifiers as their names. -/
structure Record.Declarable (record : Record) : Prop where
  identifiers : ∀ field ∈ record.fields, Identifier field.name
  distinct : (record.fields.map (·.name)).Nodup

/-! ## The tokens of an identifier -/

namespace Token

section Underscore

variable {c : Char} {part : List Char}

theorem isSymbolPart_of_plain (hpart : part.all isIdentifierPart = true) (hplain : '_' ∉ part) :
    ∀ x ∈ part, isSymbolPart x = true := by
  intro x hmem
  have hx : isSymbolPart x = true ∨ x = '_' := by
    simpa [isIdentifierPart] using List.all_eq_true.mp hpart x hmem
  apply hx.resolve_right
  rintro rfl
  exact hplain hmem

theorem all_underscore (rest : List Char) :
    all ('_' :: rest) = [⟨.error (.unexpectedCharacter '_'), "_"⟩] := by
  have hnext : next ('_' :: rest) = (⟨.error (.unexpectedCharacter '_'), "_"⟩, rest) := rfl
  rw [all_eq, hnext]
  rfl

theorem all_symbol_underscore (hletter : Text.isLetter c = true)
    (hpart : ∀ x ∈ part, isSymbolPart x = true) (rest : List Char) :
    all (c :: part ++ '_' :: rest) =
      [⟨.symbol, String.ofList (c :: part)⟩, ⟨.error (.unexpectedCharacter '_'), "_"⟩] := by
  have hlexeme : lexeme (c :: part ++ '_' :: rest) = (.symbol, (c :: part).length) := by
    have hstop : ('_' :: rest).takeWhile isSymbolPart = [] := rfl
    rw [List.cons_append, lexeme_symbol hletter, List.takeWhile_append_of_pos hpart, hstop,
      List.append_nil, List.length_cons]
  have hblank : Text.isBlank c = false := isBlank_of_opensText (by simp [opensText, hletter])
  have hnext : next (c :: part ++ '_' :: rest) =
      (⟨.symbol, String.ofList (c :: part)⟩, '_' :: rest) := by
    have hdrop : (c :: part ++ '_' :: rest).dropWhile Text.isBlank = c :: part ++ '_' :: rest := by
      simp [hblank]
    rw [next, hdrop, take_of_lexeme hlexeme]
  rw [all_cons hnext rfl, all_underscore]

end Underscore

end Token

/-! ## The expression of an identifier -/

namespace Expr

theorem exists_derives_symbol (text : String) : ∃ e, Derives 0 .or [⟨.symbol, text⟩] e := by
  by_cases htrue : text = "true"
  · subst htrue
    exact ⟨_, (Derives.true (Nat.zero_le _)).loosen (Level.tightness_le_unary _)⟩
  by_cases hfalse : text = "false"
  · subst hfalse
    exact ⟨_, (Derives.false (Nat.zero_le _)).loosen (Level.tightness_le_unary _)⟩
  exact ⟨_, (Derives.symbol (Nat.zero_le _) htrue hfalse).loosen (Level.tightness_le_unary _)⟩

theorem parse_symbol_error (text : String) (cause : LexError) (rest : String) :
    parse [⟨.symbol, text⟩, ⟨.error cause, rest⟩] = .error (.lex cause) := by
  obtain ⟨e, hderives⟩ := exists_derives_symbol text
  have hterminated : Terminated [⟨.error cause, rest⟩] := terminated_of_isTerminal rfl []
  exact parse_of_trailing_error (read_derives hderives (hterminated.stops .or)) rfl

end Expr

namespace Identifier

variable {name : String}

theorem parse_plain (h : Identifier name) (hplain : '_' ∉ name.toList) :
    Expr.parse (tokenize name) = .ok (.symbol name) := by
  obtain ⟨c, part, hname, hopens, hpart⟩ := h.shape
  rw [hname, List.mem_cons, not_or] at hplain
  obtain ⟨hc, hrest⟩ := hplain
  have hletter : Text.isLetter c = true := hopens.resolve_right (Ne.symm hc)
  have hsymbol : ∀ x ∈ part, Token.isSymbolPart x = true :=
    Token.isSymbolPart_of_plain hpart hrest
  have htokens : tokenize name = [⟨.symbol, name⟩] ++ [⟨.eof, ""⟩] := by
    have hall := Token.all_word (Lexeme.symbol hletter hsymbol) Token.separated_nil
    rw [List.append_nil, ← hname, String.ofList_toList] at hall
    rw [tokenize, hall, all_eq, Token.next_nil]
    rfl
  rw [htokens]
  apply Expr.parse_derives
  exact (Expr.Derives.symbol (Nat.zero_le _) h.notTrue h.notFalse).loosen
    (Level.tightness_le_unary _)

theorem parse_underscore (h : Identifier name) (hunderscore : '_' ∈ name.toList) :
    Expr.parse (tokenize name) = .error (.lex (.unexpectedCharacter '_')) := by
  obtain ⟨c, part, hname, hopens, hpart⟩ := h.shape
  rw [tokenize, hname]
  by_cases hfirst : c = '_'
  · subst hfirst
    rw [Token.all_underscore]
    rfl
  have hletter : Text.isLetter c = true := hopens.resolve_right hfirst
  have hmem : '_' ∈ part := by
    rw [hname] at hunderscore
    exact (List.mem_cons.mp hunderscore).resolve_left (Ne.symm hfirst)
  -- The first underscore ends the symbol before it.
  obtain ⟨front, rest, rfl, hfront⟩ := List.eq_append_cons_of_mem hmem
  rw [List.all_append, Bool.and_eq_true] at hpart
  have hsymbol : ∀ x ∈ front, Token.isSymbolPart x = true :=
    Token.isSymbolPart_of_plain hpart.1 hfront
  rw [← List.cons_append, Token.all_symbol_underscore hletter hsymbol, Expr.parse_symbol_error]

end Identifier

/-! ## The fields of a structure -/

namespace Record

/-- A predicate that is only the name of a field has the value of the field if no underscore is in
the name. Otherwise it does not compile, for the underscore. -/
theorem compile_field_name {record : Record} (h : record.Declarable) {field : Field}
    (hfield : field ∈ record.fields) (name : String) :
    ('_' ∉ field.name.toList → ∃ predicate, Predicate.compile name field.name = .ok predicate ∧
      predicate.evaluate record.table = .ok field.value) ∧
    ('_' ∈ field.name.toList →
      Predicate.compile name field.name = .error (.lex (.unexpectedCharacter '_'))) := by
  have hidentifier := h.identifiers field hfield
  constructor
  · intro hplain
    refine ⟨⟨name, field.name, .symbol field.name⟩, ?_, ?_⟩
    · rw [Predicate.compile, hidentifier.parse_plain hplain]
    · rw [Predicate.evaluate, eval, evalSymbol, get?_table h.distinct hfield]
  · intro hunderscore
    rw [Predicate.compile, hidentifier.parse_underscore hunderscore]
    rfl

/-- Of the fields `limit` and `is_set` only the first one can be read. -/
theorem compile_limit_and_is_set :
    (∃ predicate, Predicate.compile "Flags" "limit" = .ok predicate ∧
      predicate.evaluate (.ofList [("limit", .int 3), ("is_set", .bool true)]) = .ok (.int 3)) ∧
    Predicate.compile "Flags" "is_set" = .error (.lex (.unexpectedCharacter '_')) := by
  have hdeclarable : Record.Declarable
      ⟨"Flags", [⟨"limit", .int 3, none⟩, ⟨"is_set", .bool true, some "is_set"⟩]⟩ := by
    constructor
    · intro field hmem
      simp only [List.mem_cons, List.not_mem_nil, or_false] at hmem
      rcases hmem with rfl | rfl
      · exact ⟨⟨_, _, rfl, .inl (by decide), rfl⟩, by decide, by decide⟩
      · exact ⟨⟨_, _, rfl, .inl (by decide), rfl⟩, by decide, by decide⟩
    · decide
  obtain ⟨hlimit, -⟩ := compile_field_name hdeclarable List.mem_cons_self "Flags"
  obtain ⟨-, hset⟩ :=
    compile_field_name hdeclarable (List.mem_cons_of_mem _ List.mem_cons_self) "Flags"
  exact ⟨hlimit (by decide), hset (by decide)⟩

end Record

end FieldPredicate
