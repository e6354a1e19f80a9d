import FieldPredicate.Error
import FieldPredicate.Operator

/-!
# Tokens

A token is a kind with the text it was read from. A list of tokens that comes from text ends in
its only terminal token: `eof` with empty text, or an error with the offending text.
-/

namespace FieldPredicate

inductive TokenKind where
  | leftParen
  | rightParen
  | period
  | comma
  | logicalOr
  | logicalAnd
  | equal
  | notEqual
  | less
  | lessEqual
  | greater
  | greaterEqual
  | not
  | plus
  | minus
  | asterisk
  | slash
  | bitOr
  | bitAnd
  | shiftLeft
  | shiftRight
  | integer
  | string
  | symbol
  | eof
  | error (cause : LexError)
  deriving DecidableEq

structure Token where
  kind : TokenKind
  text : String
  deriving DecidableEq

namespace TokenKind

/-- The two kinds that end a list of tokens. -/
def isTerminal : TokenKind → Bool
  | .eof | .error _ => true
  | _ => false

/-- The operator that a token stands for between two operands. -/
def binaryOp? : TokenKind → Option BinaryOp
  | .logicalOr => some .or
  | .logicalAnd => some .and
  | .equal => some .equal
  | .notEqual => some .notEqual
  | .less => some .less
  | .lessEqual => some .lessEqual
  | .greater => some .greater
  | .greaterEqual => some .greaterEqual
  | .plus => some .add
  | .minus => some .sub
  | .bitOr => some .bitOr
  | .asterisk => some .mul
  | .slash => some .div
  | .bitAnd => some .bitAnd
  | .shiftLeft => some .shiftLeft
  | .shiftRight => some .shiftRight
  | _ => none

/-- The operator that a token stands for before an operand. -/
def unaryOp? : TokenKind → Option UnaryOp
  | .minus => some .negate
  | .plus => some .identity
  | .not => some .not
  | .asterisk => some .deref
  | _ => none

end TokenKind

namespace Token

def eof : Token := ⟨.eof, ""⟩

def isTerminal (token : Token) : Bool :=
  token.kind.isTerminal

@[simp] theorem isTerminal_eof (text : String) : isTerminal ⟨.eof, text⟩ = true := rfl

@[simp] theorem isTerminal_error (cause : LexError) (text : String) :
    isTerminal ⟨.error cause, text⟩ = true := rfl

def describe (token : Token) : String :=
  if token.kind = .eof then "end of input" else "'" ++ token.text ++ "'"

end Token

end FieldPredicate
