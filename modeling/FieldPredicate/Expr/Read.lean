import FieldPredicate.Expr
import FieldPredicate.Token

/-!
# Reading expressions

Operators between operands associate to the right on each of their five levels, operators before
an operand bind tighter, and a group, an operand of an operator before it and a right operand
nest one step deeper than what they stand in. A reader gets the number of steps that are left,
looks at one token before it takes it, and answers with the tokens that it left over, on failure
too.
-/

namespace FieldPredicate.Expr

/-- How deeply expressions may nest. -/
def maxDepth : Nat := 128

/-- A reader of expressions answers with an expression or an error, and with the tokens left. -/
abbrev Reader := List Token → Except ParseError Expr × List Token

def describe : Option Token → String
  | some token => token.describe
  | none => Token.eof.describe

/-- The text of a string token without its pair of backticks, or as it is if it lacks them. -/
def unquoted (text : String) : String :=
  match text.toList with
  | '\x60' :: inner =>
      if inner.getLast? = some '\x60' then String.ofList inner.dropLast else text
  | _ => text

/-- The first token of the rest after a failure that this token causes: lexing errors keep their
cause, and other tokens are described. -/
def refusal (report : String → ParseError) : Option Token → ParseError
  | some ⟨.error cause, _⟩ => .lex cause
  | token => report (describe token)

def readSelection (name : String) : Reader
  | ⟨.period, _⟩ :: ⟨.symbol, member⟩ :: rest => (.ok (.selector name member), rest)
  | ⟨.period, _⟩ :: rest => (.error (refusal .expectedMember rest.head?), rest.tail)
  | tokens => (.ok (.symbol name), tokens)

/-- What a symbol token denotes: the two boolean literals have no members. -/
def readSymbol (name : String) : Reader := fun tokens =>
  if name = "true" then (.ok (.bool true), tokens)
  else if name = "false" then (.ok (.bool false), tokens)
  else readSelection name tokens

def readGroup (inner : Reader) : Reader := fun tokens =>
  match inner tokens with
  | (.ok e, ⟨.rightParen, _⟩ :: rest) => (.ok e, rest)
  | (.ok _, rest) => (.error (refusal .expectedClosingParen rest.head?), rest.tail)
  | failed => failed

def readAtom (inner : Reader) : Reader
  | ⟨.leftParen, _⟩ :: rest => readGroup inner rest
  | ⟨.symbol, text⟩ :: rest => readSymbol text rest
  | ⟨.string, text⟩ :: rest => (.ok (.string (unquoted text)), rest)
  | ⟨.integer, text⟩ :: rest => (.ok (.integer text), rest)
  | tokens => (.error (refusal .unexpectedToken tokens.head?), tokens.tail)

def readUnary (operand inner : Reader) : Reader := fun tokens =>
  match tokens.head?.bind (·.kind.unaryOp?) with
  | some op =>
      match operand tokens.tail with
      | (.ok e, rest) => (.ok (.unary op e), rest)
      | failed => failed
  | none => readAtom inner tokens

def readInfix (level : Level) (operand right : Reader) : Reader := fun tokens =>
  match operand tokens with
  | (.ok left, rest) =>
      match (rest.head?.bind (·.kind.binaryOp?)).filter (·.level = level) with
      | some op =>
          match right rest.tail with
          | (.ok e, rest) => (.ok (.binary left op e), rest)
          | failed => failed
      | none => (.ok left, rest)
  | failed => failed

/-- The reader of a level, from the readers that nest one step deeper. -/
def readLevel (deeper : Level → Reader) (level : Level) : Reader :=
  let unary := readUnary (deeper .unary) (deeper .or)
  let multiplicative := readInfix .multiplicative unary (deeper .multiplicative)
  let additive := readInfix .additive multiplicative (deeper .additive)
  let comparison := readInfix .comparison additive (deeper .comparison)
  let and := readInfix .and comparison (deeper .and)
  let or := readInfix .or and (deeper .or)
  match level with
  | .unary => unary
  | .multiplicative => multiplicative
  | .additive => additive
  | .comparison => comparison
  | .and => and
  | .or => or

def readWithin : Nat → Level → Reader
  | 0, _ => fun tokens => (.error (.tooDeep maxDepth), tokens)
  | steps + 1, level => readLevel (readWithin steps) level

def read : Reader :=
  readWithin (maxDepth + 1) .or

/-- The texts of the tokens before the terminal one. -/
def trailing : List Token → Except ParseError (List String)
  | [] => .ok []
  | ⟨.eof, _⟩ :: _ => .ok []
  | ⟨.error cause, _⟩ :: _ => .error (.lex cause)
  | token :: rest => (trailing rest).map (token.text :: ·)

/-- The expression that tokens form, if they are used up by it. -/
def parse (tokens : List Token) : Except ParseError Expr :=
  match read tokens with
  | (.error e, _) => .error e
  | (.ok e, rest) =>
      match trailing rest with
      | .error e => .error e
      | .ok [] => .ok e
      | .ok texts => .error (.trailingTokens texts)

end FieldPredicate.Expr
