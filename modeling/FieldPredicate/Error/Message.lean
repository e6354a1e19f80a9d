import FieldPredicate.Error
import FieldPredicate.Text.Quoted

/-!
# Messages

The wording of every error, without a line end.
-/

namespace FieldPredicate

def LexError.message : LexError → String
  | .unexpectedCharacter c => "unexpected character '" ++ String.singleton c ++ "'"
  | .unterminatedString => "reached end of input while reading string"
  | .expected what => "expected '" ++ what ++ "'"
  | .unrecognized => "unrecognized input"

def ParseError.message : ParseError → String
  | .lex error => error.message
  | .unexpectedToken found => "could not parse expression at " ++ found
  | .expectedClosingParen found => "expected ')' but found " ++ found
  | .expectedMember found => "expected member name after '.' but found " ++ found
  | .tooDeep limit => "expression nests deeper than " ++ Nat.repr limit ++ " levels"
  | .trailingTokens texts => "unparsed trailing tokens: " ++ " ".intercalate texts

/-- What a table of operations says of an operator that it does not hold. -/
def OperationTable.complaint : OperationTable → String
  | .intArithmetic => "int_op used with non arithmetic operator"
  | .uintArithmetic => "uint_op used with non arithmetic operator"
  | .floatArithmetic => "float_op used with non arithmetic operator"
  | .equality => "equality_op_result used with non equality operator"
  | .ordering => "compare used with non ordering operator"
  | .logic => "eval_logic used with non logical operator"
  | .bitwise => "eval_bitwise used with non bitwise operator"

def EvalError.message : EvalError → String
  | .symbolNotFound name => "could not find value for symbol " ++ name
  | .typeMismatch op left right =>
      "type mismatch: " ++ left.name ++ " " ++ op ++ " " ++ right.name
  | .invalidType op kind => "invalid type: " ++ op ++ " is not defined for " ++ kind.name
  | .memberNotFound object member => object ++ " has no member " ++ member
  | .nilDereference => "nil pointer dereference"
  | .divisionByZero => "integer division by zero"
  | .overflow op => "integer overflow in " ++ op
  | .shiftOutOfRange count => "shift count " ++ count ++ " out of range"
  | .literalTooLarge text => "integer literal " ++ text ++ " is too large"
  | .notBoolean kind => "result is " ++ kind.name ++ ", not bool"
  | .misrouted table => "internal error: entered unreachable code: " ++ table.complaint

/-- The wording of a failure, which names its stage first. -/
def Failure.message : Failure → String
  | .lex error => "could not be lexed: " ++ error.message
  | .parse error => "could not be parsed: " ++ error.message
  | .eval error => "could not be evaluated: " ++ error.message

def Cause.message : Cause → String
  | .failed failure => failure.message
  | .unsatisfied => "not met"

namespace CheckError

def isUnsatisfied (error : CheckError) : Bool :=
  error.cause = .unsatisfied

/-- The wording of a failed check: the field, its value, the predicate and the cause. -/
def message (error : CheckError) : String :=
  error.typeName ++ "." ++ error.field ++ " = " ++ error.value ++ ", " ++
    Text.quote error.predicate ++ " " ++ error.cause.message

end CheckError

end FieldPredicate
