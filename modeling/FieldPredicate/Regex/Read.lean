import FieldPredicate.Numeral
import FieldPredicate.Regex
import FieldPredicate.Text.Alphanumeric
import FieldPredicate.Text.Character

/-!
# Reading regular expressions

Regular expressions come from between braces and commas, so they hold no closing brace. An opening
one, which would count repetitions or name a character or a class, is therefore never closed, and
stands for itself only in a class or after a backslash. In spaced text, white space and comments
are passed over.
-/

namespace FieldPredicate

namespace Regex

/-! ## White space -/

/-- Text without the white space and the comments at its start, of which the first may have begun
before. -/
def dropSpace (inComment : Bool) : List Char → List Char
  | [] => []
  | c :: rest =>
      if inComment then dropSpace (c ≠ '\n') rest
      else if Text.isWhiteSpace c then dropSpace false rest
      else if c = '#' then dropSpace true rest
      else c :: rest

def skip (spaced : Bool) (text : List Char) : List Char :=
  if spaced then dropSpace false text else text

/-- The next character that is no white space and does not open a comment. Within a comment, any
other character counts. -/
def peekPastSpace (inComment : Bool) : List Char → Option Char
  | [] => none
  | c :: rest =>
      if Text.isWhiteSpace c then peekPastSpace inComment rest
      else if c = '#' && !inComment then peekPastSpace true rest
      else some c

/-- The next character, or in spaced text the next one past white space. -/
def peek (spaced : Bool) (text : List Char) : Option Char :=
  if spaced then peekPastSpace false text else text.head?

/-! ## Escapes -/

/-- What a backslash and the text after it stand for. -/
inductive Escape where
  | char (c : Char)
  | byte (c : Char)
  | named (negated : Bool)
  | anchor
  | wordEdge

/-- The number that digits of base sixteen denote, after those already read. -/
def readHex (spaced : Bool) : Nat → Nat → List Char → Option (Nat × List Char)
  | 0, read, text => some (read, text)
  | count + 1, read, text =>
      match skip spaced text with
      | [] => none
      | c :: rest =>
          match digitValue? 16 c with
          | some d => readHex spaced count (read * 16 + d) rest
          | none => none

def readCodePoint (spaced : Bool) (count : Nat) (text : List Char) : Option (Char × List Char) :=
  match readHex spaced count 0 text with
  | some (n, rest) => if n.isValidChar then some (Char.ofNat n, rest) else none
  | none => none

def control? : Char → Option Char
  | 'a' => some '\x07'
  | 'f' => some '\x0c'
  | 't' => some '\t'
  | 'n' => some '\n'
  | 'r' => some '\r'
  | 'v' => some '\x0b'
  | _ => none

def isEscapable (c : Char) : Bool :=
  c.toNat < 128 && !c.isAlphanum && c ≠ '<' && c ≠ '>'

def readEscape (spaced : Bool) : List Char → Option (Escape × List Char)
  | [] => none
  | c :: rest =>
      match c with
      | 'x' => (readCodePoint spaced 2 rest).map fun (c, rest) => (.byte c, rest)
      | 'u' => (readCodePoint spaced 4 rest).map fun (c, rest) => (.char c, rest)
      | 'U' => (readCodePoint spaced 8 rest).map fun (c, rest) => (.char c, rest)
      | 'd' | 's' | 'w' => some (.named false, rest)
      | 'D' | 'S' | 'W' => some (.named true, rest)
      | 'A' | 'z' => some (.anchor, rest)
      | 'b' => if rest.head? = some '\x7b' then none else some (.wordEdge, rest)
      | 'B' | '<' | '>' => some (.wordEdge, rest)
      | c =>
          if isEscapable c then some (.char c, rest)
          else (control? c).map fun c => (.char c, rest)

def Escape.regex : Escape → Regex
  | .char c => .literal c
  | .byte c => .byte c
  | .named negated => .named negated
  | .anchor => .anchor
  | .wordEdge => .wordEdge

/-! ## Classes -/

def asciiClassNames : List String :=
  ["alnum", "alpha", "ascii", "blank", "cntrl", "digit", "graph", "lower", "print", "punct",
   "space", "upper", "word", "xdigit"]

/-- The class that a name between colons stands for, after its opening bracket. -/
def readAsciiClass? : List Char → Option (RegexSet × List Char)
  | ':' :: text =>
      let negated := text.head? = some '^'
      let name := if negated then text.tail else text
      match name.dropWhile (· ≠ ':') with
      | ':' :: ']' :: rest =>
          if asciiClassNames.contains (String.ofList (name.takeWhile (· ≠ ':'))) then
            some (.ascii negated, rest)
          else none
      | _ => none
  | _ => none

def readSetItem (spaced : Bool) : List Char → Option (Escape × List Char)
  | [] => none
  | '\\' :: rest => readEscape spaced rest
  | c :: rest => some (.char c, rest)

def Escape.char? : Escape → Option Char
  | .char c | .byte c => some c
  | _ => none

/-- The part of a class that an escape is. Assertions are none. -/
def Escape.set? : Escape → Option RegexSet
  | .char c | .byte c => some (.char c)
  | .named negated => some (.named negated)
  | .anchor | .wordEdge => none

/-- A part of a class, or two characters with a dash between them. A dash before the end of the
class or before another dash stands for no range. -/
def readSetRange (spaced : Bool) (text : List Char) : Option (RegexSet × List Char) :=
  match readSetItem spaced text with
  | none => none
  | some (first, rest) =>
      match skip spaced rest with
      | [] => none
      | c :: rest =>
          if c ≠ '-' || peek spaced rest = some ']' || peek spaced rest = some '-' then
            first.set?.map fun part => (part, c :: rest)
          else
            match readSetItem spaced (skip spaced rest) with
            | none => none
            | some (last, rest) =>
                match first.char?, last.char? with
                | some a, some b => if a ≤ b then some (.range a b, rest) else none
                | _, _ => none

/-- The operand so far, after an operator before it has been applied. -/
def joinSets (left : Option RegexSet) (parts : List RegexSet) : RegexSet :=
  match left with
  | some left => .operation left (.ofParts parts.reverse)
  | none => .ofParts parts.reverse

/-- The sign of a class after its opening bracket, and the text after the sign. -/
def readSign (spaced : Bool) (text : List Char) : Bool × List Char :=
  match skip spaced text with
  | '^' :: rest => (true, rest)
  | text => (false, text)

/-- A class up to its closing bracket, after the operand and the parts that were read. Dashes that
lead the class stand for themselves, and so does a bracket that would close it at once. -/
def readSet (spaced : Bool) : Nat → Bool → Option RegexSet → List RegexSet → List Char →
    Option (RegexSet × List Char)
  | 0, _, _, _, _ => none
  | fuel + 1, leading, left, parts, text =>
      match skip spaced text with
      | [] => none
      | c :: rest =>
          if leading && (c = '-' || (c = ']' && parts.isEmpty)) then
            readSet spaced fuel (c = '-') left (.char c :: parts) rest
          else if c = ']' then some (joinSets left parts, rest)
          else if c = '[' then
            match readAsciiClass? rest with
            | some (part, rest) => readSet spaced fuel false left (part :: parts) rest
            | none =>
                let (negated, rest) := readSign spaced rest
                match readSet spaced fuel true none [] rest with
                | some (body, rest) =>
                    readSet spaced fuel false left (.nested negated body :: parts) rest
                | none => none
          else if (c = '&' || c = '-' || c = '~') && rest.head? = some c then
            readSet spaced fuel false (some (joinSets left parts)) [] rest.tail
          else
            match readSetRange spaced (c :: rest) with
            | some (part, rest) => readSet spaced fuel false left (part :: parts) rest
            | none => none

/-! ## Groups -/

/-- Settings up to the character that ends them, which is given back with the text after it. Each
flag is named once, and a dash turns off those after it. -/
def readSettings (negated dangling : Bool) (settings : RegexSettings) :
    List Char → Option (RegexSettings × Char × List Char)
  | [] => none
  | c :: rest =>
      if c = ':' || c = ')' then if dangling then none else some (settings, c, rest)
      else if c = '-' then if negated then none else readSettings true true settings rest
      else
        match RegexFlag.ofLetter? c with
        | none => none
        | some flag =>
            if (settings.lookup flag).isSome then none
            else readSettings negated false (settings ++ [(flag, !negated)]) rest

def isNamePart (c : Char) : Bool :=
  c = '_' || c = '.' || c = '[' || c = ']' || Text.isAlphanumeric c

def isName : List Char → Bool
  | [] => false
  | c :: rest => (c = '_' || Text.isAlphabetic c) && rest.all isNamePart

inductive Opening where
  | settings (changes : RegexSettings)
  | group (changes : RegexSettings)

/-- What remains to be read, the names of groups before it, and whether it is spaced. -/
structure Cursor where
  rest : List Char
  names : List (List Char)
  spaced : Bool

/-- The name of a group up to its closing bracket. No two groups have one name. -/
def Cursor.readName (cursor : Cursor) (text : List Char) : Option (Opening × Cursor) :=
  let name := text.takeWhile (· ≠ '>')
  match text.dropWhile (· ≠ '>') with
  | [] => none
  | _ :: rest =>
      if isName name && !cursor.names.contains name then
        some (.group [], { cursor with rest := rest, names := name :: cursor.names })
      else none

/-- What comes after an opening parenthesis, up to the body of the group. Assertions about the text
around a place are not supported, and settings alone have to change something. -/
def Cursor.readOpening (cursor : Cursor) (text : List Char) : Option (Opening × Cursor) :=
  match skip cursor.spaced text with
  | '?' :: 'P' :: '<' :: rest => cursor.readName rest
  | '?' :: '<' :: '=' :: _ => none
  | '?' :: '<' :: '!' :: _ => none
  | '?' :: '<' :: rest => cursor.readName rest
  | '?' :: rest =>
      match readSettings false false [] rest with
      | some (changes, end_, rest) =>
          if end_ = ':' then some (.group changes, { cursor with rest := rest })
          else if changes.isEmpty then none
          else some (.settings changes, { cursor with rest := rest })
      | none => none
  | text => some (.group [], { cursor with rest := text })

def Cursor.set (cursor : Cursor) (changes : RegexSettings) : Cursor :=
  { cursor with spaced := changes.state .spaced cursor.spaced }

/-! ## Expressions -/

/-- Text without a question mark at its start, which asks a repetition to be reluctant. -/
def dropReluctance : List Char → List Char
  | '?' :: rest => rest
  | text => text

/-- A part that is no group, no class and no repetition. -/
def readPrimitive (spaced : Bool) (c : Char) (rest : List Char) : Option (Regex × List Char) :=
  match c with
  | '\\' => (readEscape spaced rest).map fun (escape, rest) => (escape.regex, rest)
  | '.' => some (.any, rest)
  | '^' | '$' => some (.anchor, rest)
  | '\x7b' => none
  | c => some (.literal c, rest)

/-- The parts with the last one repeated, if it can be. -/
def repeatLast? : List Regex → Option (List Regex)
  | [] | .settings _ :: _ => none
  | part :: rest => some (.repeated part :: rest)

mutual

/-- The parts of a branch up to its end, the last ones first, after those that were read. -/
def readParts : Nat → Cursor → List Regex → Option (List Regex × Cursor)
  | 0, _, _ => none
  | fuel + 1, cursor, parts =>
      match skip cursor.spaced cursor.rest with
      | [] => some (parts, { cursor with rest := [] })
      | c :: rest =>
          if c = ')' || c = '|' then some (parts, { cursor with rest := c :: rest })
          else if c = '(' then
            match cursor.readOpening rest with
            | none => none
            | some (.settings changes, cursor) =>
                readParts fuel (cursor.set changes) (.settings changes :: parts)
            | some (.group changes, inner) =>
                match readBranches fuel (inner.set changes) [] with
                | some (body, ⟨')' :: rest, names, _⟩) =>
                    readParts fuel ⟨rest, names, cursor.spaced⟩ (.group changes body :: parts)
                | _ => none
          else if c = '[' then
            let (negated, rest) := readSign cursor.spaced rest
            match readSet cursor.spaced (rest.length + 1) true none [] rest with
            | some (body, rest) =>
                readParts fuel { cursor with rest := rest } (.set negated body :: parts)
            | none => none
          else if c = '?' || c = '*' || c = '+' then
            match repeatLast? parts with
            | some parts => readParts fuel { cursor with rest := dropReluctance rest } parts
            | none => none
          else
            match readPrimitive cursor.spaced c rest with
            | some (part, rest) => readParts fuel { cursor with rest := rest } (part :: parts)
            | none => none

def readBranches : Nat → Cursor → List Regex → Option (Regex × Cursor)
  | 0, _, _ => none
  | fuel + 1, cursor, branches =>
      match readParts fuel cursor [] with
      | none => none
      | some (parts, cursor) =>
          let branches := Regex.ofParts parts.reverse :: branches
          match cursor.rest with
          | '|' :: rest => readBranches fuel { cursor with rest := rest } branches
          | _ => some (Regex.ofBranches branches.reverse, cursor)

end

/-- The expression that text is, if it is one. Every two steps use up a character. -/
def read? (text : List Char) : Option Regex :=
  match readBranches (2 * text.length + 2) ⟨text, [], false⟩ [] with
  | some (regex, ⟨[], _, _⟩) => some regex
  | _ => none

/-! ## Usability -/

inductive Fault where
  /-- It is not well formed, nests too deeply, or asks for properties of characters that are not
  known. -/
  | malformed
  /-- It asks for the edges of words in Unicode text. -/
  | wordEdge
  deriving DecidableEq

def maxHeight : Nat := 250

/-- Why an expression cannot be used, if so. -/
def fault? (text : List Char) : Option Fault :=
  match read? text with
  | none => some .malformed
  | some regex =>
      let survey := regex.survey .start
      if maxHeight < regex.height || !survey.isSupported then some .malformed
      else if survey.hasWordEdge then some .wordEdge
      else none

end Regex

end FieldPredicate
