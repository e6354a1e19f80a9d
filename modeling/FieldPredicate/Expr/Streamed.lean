import FieldPredicate.Expr.Read
import FieldPredicate.Token.Lookahead

/-!
# Reading expressions from a stream

The readers of expressions on a stream that shows one token before it is taken. They look before
they take wherever a token may belong to what follows the expression, and take a token unseen where
the expression cannot go on without one. A failure leaves the stream as far as it was read.
-/

namespace FieldPredicate.Expr

/-- A reader on a stream, which the reading moves on whether it fails or not. -/
abbrev Streamed (α : Type) := ExceptT ParseError (StateM Lookahead) α

namespace Streamed

def peek : Streamed (Option Token) :=
  modifyGet Lookahead.peek

def next : Streamed (Option Token) :=
  modifyGet Lookahead.next

def readSelection (name : String) : Streamed Expr := do
  match ← peek with
  | some ⟨.period, _⟩ =>
      let _ ← next
      match ← next with
      | some ⟨.symbol, member⟩ => return .selector name member
      | found => throw (refusal .expectedMember found)
  | _ => return .symbol name

def readSymbol (name : String) : Streamed Expr :=
  if name = "true" then return .bool true
  else if name = "false" then return .bool false
  else readSelection name

def readGroup (inner : Streamed Expr) : Streamed Expr := do
  let e ← inner
  match ← next with
  | some ⟨.rightParen, _⟩ => return e
  | found => throw (refusal .expectedClosingParen found)

def readAtom (inner : Streamed Expr) : Streamed Expr := do
  match ← next with
  | some ⟨.leftParen, _⟩ => readGroup inner
  | some ⟨.symbol, text⟩ => readSymbol text
  | some ⟨.string, text⟩ => return .string (unquoted text)
  | some ⟨.integer, text⟩ => return .integer text
  | found => throw (refusal .unexpectedToken found)

def readUnary (operand inner : Streamed Expr) : Streamed Expr := do
  match (← peek).bind (·.kind.unaryOp?) with
  | some op =>
      let _ ← next
      return .unary op (← operand)
  | none => readAtom inner

def readInfix (level : Level) (operand right : Streamed Expr) : Streamed Expr := do
  let left ← operand
  match ((← peek).bind (·.kind.binaryOp?)).filter (·.level = level) with
  | some op =>
      let _ ← next
      return .binary left op (← right)
  | none => return left

/-- The reader of a level, from the readers that nest one step deeper. -/
def readLevel (deeper : Level → Streamed Expr) (level : Level) : Streamed Expr :=
  let unary := readUnary (deeper .unary) (deeper .or)
  let multiplicative := readInfix .multiplicative unary (deeper .multiplicative)
  let additive := readInfix .additive multiplicative (deeper .additive)
  let comparison := readInfix .comparison additive (deeper .comparison)
  let and := readInfix .and comparison (deeper .and)
  let or := readInfix .or and (deeper .or)
  match level with
  | .unary => unary
  | .multiplicative => multiplicative
  | .additive => additive
  | .comparison => comparison
  | .and => and
  | .or => or

def readWithin : Nat → Level → Streamed Expr
  | 0, _ => throw (.tooDeep maxDepth)
  | steps + 1, level => readLevel (readWithin steps) level

end Streamed

/-- The next expression of a stream, and the stream after it. -/
def ofStream (stream : Lookahead) : Except ParseError Expr × Lookahead :=
  (Streamed.readWithin (maxDepth + 1) .or).run.run stream

end FieldPredicate.Expr
