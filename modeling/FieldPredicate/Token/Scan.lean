import FieldPredicate.Numeral
import FieldPredicate.Text.Character
import FieldPredicate.Token

/-!
# Splitting text into tokens

`lexeme` measures the longest lexeme at the start of text, `next` takes it off after the blanks
before it, and `all` goes on to the terminal token. `TokenStream` does the same one token at a
time.
-/

namespace FieldPredicate

namespace Token

/-- The operators and punctuation marks. A spelling stands before its own beginnings, so the first
that fits is the longest. -/
def spellings : List (List Char × TokenKind) :=
  [(['|', '|'], .logicalOr), (['&', '&'], .logicalAnd), (['=', '='], .equal),
   (['!', '='], .notEqual), (['<', '='], .lessEqual), (['>', '='], .greaterEqual),
   (['<', '<'], .shiftLeft), (['>', '>'], .shiftRight), (['('], .leftParen),
   ([')'], .rightParen), (['.'], .period), ([','], .comma), (['<'], .less), (['>'], .greater),
   (['!'], .not), (['+'], .plus), (['-'], .minus), (['*'], .asterisk), (['/'], .slash),
   (['|'], .bitOr), (['&'], .bitAnd)]

def isSymbolPart (c : Char) : Bool :=
  Text.isLetter c || Text.isDecimalDigit c

/-- The lexeme that a backtick opens: text up to the next backtick. -/
def stringLexeme (rest : List Char) : TokenKind × Nat :=
  if '\x60' ∈ rest then (.string, rest.idxOf '\x60' + 2)
  else (.error .unterminatedString, rest.length + 1)

/-- The lexeme that a zero opens: a literal whose radix a letter announces, an octal one, or the
zero alone. -/
def zeroLexeme : List Char → TokenKind × Nat
  | [] => (.integer, 1)
  | c :: rest =>
      match Radix.ofMarker? c with
      | some radix =>
          let length := radix.digitRunLength rest
          if length = 0 then (.error (.expected radix.digitName), 2) else (.integer, length + 2)
      | none => (.integer, Radix.octal.digitRunLength (c :: rest) + 1)

/-- The kind and the length of the lexeme at the start of text that no spelling fits. The
placeholder is a symbol at once, and a character that begins no lexeme is named at once, so that no
text is `unrecognized`. -/
def openLexeme : List Char → TokenKind × Nat
  | [] => (.eof, 0)
  | c :: rest =>
      if c = '=' then (.error (.expected "=="), 1)
      else if c = '?' then (.symbol, 1)
      else if c = '\x60' then stringLexeme rest
      else if c = '0' then zeroLexeme rest
      else if Radix.decimal.isDigit c then (.integer, Radix.decimal.digitRunLength rest + 1)
      else if Text.isLetter c then (.symbol, (rest.takeWhile isSymbolPart).length + 1)
      else (.error (.unexpectedCharacter c), 1)

/-- The kind and the length of the lexeme at the start of text. -/
def lexeme (cs : List Char) : TokenKind × Nat :=
  match spellings.find? fun entry => entry.1.isPrefixOf cs with
  | some (spelling, kind) => (kind, spelling.length)
  | none => openLexeme cs

/-- The first token of text that starts with no blank, and the text after it. -/
def take (cs : List Char) : Token × List Char :=
  let (kind, length) := lexeme cs
  (⟨kind, String.ofList (cs.take length)⟩, cs.drop length)

def next (cs : List Char) : Token × List Char :=
  take (cs.dropWhile Text.isBlank)

theorem openLexeme_length_pos (c : Char) (rest : List Char) :
    0 < (openLexeme (c :: rest)).2 := by
  unfold openLexeme stringLexeme zeroLexeme
  grind

theorem lexeme_length_pos (c : Char) (rest : List Char) : 0 < (lexeme (c :: rest)).2 := by
  unfold lexeme
  split
  · rename_i spelling kind h
    have hmem := List.mem_of_find?_eq_some h
    simp only [spellings, List.mem_cons, Prod.mk.injEq, List.not_mem_nil, or_false] at hmem
    rcases hmem with h | h | h | h | h | h | h | h | h | h | h | h | h | h | h | h | h | h | h |
      h | h <;> simp [h.1]
  · exact openLexeme_length_pos c rest

@[simp] theorem next_nil : next [] = (eof, []) := by
  decide

/-- Every token but the terminal one takes something off the text. -/
theorem length_next_lt {cs : List Char} (h : (next cs).1.isTerminal = false) :
    (next cs).2.length < cs.length := by
  have hle : (cs.dropWhile Text.isBlank).length ≤ cs.length :=
    (List.dropWhile_sublist _).length_le
  unfold next at h ⊢
  generalize cs.dropWhile Text.isBlank = ds at h hle ⊢
  cases ds with
  | nil => exact absurd h (by decide)
  | cons c rest =>
      have hpos := lexeme_length_pos c rest
      simp only [take, List.length_drop, List.length_cons] at hle ⊢
      omega

def all (cs : List Char) : List Token :=
  let step := next cs
  if _h : step.1.isTerminal then [step.1] else step.1 :: all step.2
termination_by cs.length
decreasing_by exact length_next_lt (Bool.eq_false_iff.mpr _h)

end Token

/-- The tokens of predicate text, through the terminal one. -/
def tokenize (source : String) : List Token :=
  Token.all source.toList

/-- Tokens that are read from text on demand. The name serves diagnostics only. -/
structure TokenStream where
  name : String
  rest : List Char
  finished : Bool

namespace TokenStream

def ofSource (name source : String) : TokenStream :=
  ⟨name, source.toList, false⟩

/-- The next token, and the stream after it. A stream ends with its terminal token. -/
def next (stream : TokenStream) : Option Token × TokenStream :=
  if stream.finished then (none, stream)
  else
    let (token, rest) := Token.next stream.rest
    (some token, ⟨stream.name, rest, token.isTerminal⟩)

def pull : Nat → TokenStream → List (Option Token)
  | 0, _ => []
  | count + 1, stream => stream.next.1 :: pull count stream.next.2

end TokenStream

end FieldPredicate
