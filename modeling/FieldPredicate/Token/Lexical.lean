import FieldPredicate.Token.Scan

/-!
# The lexical grammar

The grammar says which text is a lexeme of which kind, without saying how it is found. Text is
split at its longest lexeme, save that a zero before a radix letter opens a literal of that radix
or none at all. `LexicalFault` says where no lexeme can be taken and why, and `Splits` how whole
text falls into tokens.
-/

namespace FieldPredicate

/-- A run of digits of a radix, each of which may follow one underscore. -/
inductive DigitRun (radix : Radix) : List Char → Prop
  | digit {c : Char} : radix.isDigit c = true → DigitRun radix [c]
  | separated {c : Char} : radix.isDigit c = true → DigitRun radix ['_', c]
  | append {left right : List Char} :
      DigitRun radix left → DigitRun radix right → DigitRun radix (left ++ right)

/-- The text is a lexeme of the kind. -/
inductive Lexeme : TokenKind → List Char → Prop
  | spelling {kind : TokenKind} {text : List Char} :
      (text, kind) ∈ Token.spellings → Lexeme kind text
  | placeholder : Lexeme .symbol ['?']
  | symbol {c : Char} {rest : List Char} :
      Text.isLetter c = true → (∀ x ∈ rest, Token.isSymbolPart x = true) →
      Lexeme .symbol (c :: rest)
  | string {body : List Char} :
      '\x60' ∉ body → Lexeme .string ('\x60' :: body ++ ['\x60'])
  | digit {c : Char} : Radix.decimal.isDigit c = true → Lexeme .integer [c]
  | decimal {c : Char} {rest : List Char} :
      Radix.decimal.isDigit c = true → c ≠ '0' → DigitRun .decimal rest →
      Lexeme .integer (c :: rest)
  | octal {rest : List Char} : DigitRun .octal rest → Lexeme .integer ('0' :: rest)
  | based {marker : Char} {radix : Radix} {rest : List Char} :
      Radix.ofMarker? marker = some radix → DigitRun radix rest →
      Lexeme .integer ('0' :: marker :: rest)

/-- A zero before a letter that announces a radix. -/
def opensRadix : List Char → Bool
  | '0' :: c :: _ => (Radix.ofMarker? c).isSome
  | _ => false

/-- The text is the longest lexeme at the start of other text. -/
structure LongestLexeme (kind : TokenKind) (text source : List Char) : Prop where
  lexeme : Lexeme kind text
  starts : text <+: source
  longest : ∀ kind' text', Lexeme kind' text' → text' <+: source → text'.length ≤ text.length
  radix : opensRadix source = true → 1 < text.length

/-- The first part of the source begins a lexeme that the source does not finish, or none. -/
inductive LexicalFault : LexError → List Char → List Char → Prop
  | loneEquals {rest : List Char} :
      rest.head? ≠ some '=' → LexicalFault (.expected "==") ['='] ('=' :: rest)
  | missingDigit {marker : Char} {radix : Radix} {rest : List Char} :
      Radix.ofMarker? marker = some radix →
      (∀ c, radix.isDigit c = true → ¬ [c] <+: rest ∧ ¬ ['_', c] <+: rest) →
      LexicalFault (.expected radix.digitName) ['0', marker] ('0' :: marker :: rest)
  | unterminated {rest : List Char} :
      '\x60' ∉ rest → LexicalFault .unterminatedString ('\x60' :: rest) ('\x60' :: rest)
  | unexpected {c : Char} {rest : List Char} :
      (∀ kind text, ¬ Lexeme kind (c :: text)) →
      LexicalFault (.unexpectedCharacter c) [c] (c :: rest)

/-- The first token of text from its first character on, and the text behind it. -/
inductive FirstToken : List Char → Token → List Char → Prop
  | eof : FirstToken [] .eof []
  | lexeme {kind : TokenKind} {text rest : List Char} :
      LongestLexeme kind text (text ++ rest) →
      FirstToken (text ++ rest) ⟨kind, String.ofList text⟩ rest
  | fault {cause : LexError} {text rest : List Char} :
      LexicalFault cause text (text ++ rest) →
      FirstToken (text ++ rest) ⟨.error cause, String.ofList text⟩ rest

/-- Text falls into tokens, each behind a run of blanks, through the terminal one. -/
inductive Splits : List Char → List Token → Prop
  | last {cs rest : List Char} {token : Token} :
      FirstToken (cs.dropWhile Text.isBlank) token rest → token.isTerminal = true →
      Splits cs [token]
  | cons {cs rest : List Char} {token : Token} {tokens : List Token} :
      FirstToken (cs.dropWhile Text.isBlank) token rest → token.isTerminal = false →
      Splits rest tokens → Splits cs (token :: tokens)

theorem DigitRun.ne_nil {radix : Radix} {text : List Char} (h : DigitRun radix text) :
    text ≠ [] := by
  induction h with
  | digit => simp
  | separated => simp
  | append _ _ ihl _ => simp [ihl]

theorem Lexeme.ne_nil {kind : TokenKind} {text : List Char} (h : Lexeme kind text) :
    text ≠ [] := by
  cases h with
  | spelling h =>
      rintro rfl
      exact absurd h (by simp [Token.spellings])
  | _ => simp

end FieldPredicate
