import FieldPredicate.Kind

/-!
# Errors

Predicate text can fail at three stages: while it is split into tokens, while the tokens are read
as an expression, and while the expression is evaluated. Each stage has its causes with their
data, and one function that words them. `Failure` adds the stage, and `CheckError` the structure,
field and predicate that failed.
-/

namespace FieldPredicate

/-- Why text cannot be split into tokens. -/
inductive LexError where
  | unexpectedCharacter (c : Char)
  | unterminatedString
  /-- A token that lacks its second part. -/
  | expected (what : String)
  /-- Text that no rule covers, before the offending character is known. Splitting knows it, so no
  token has this cause. -/
  | unrecognized
  deriving DecidableEq

/-- Why tokens do not form an expression. -/
inductive ParseError where
  | lex (error : LexError)
  | unexpectedToken (found : String)
  | expectedClosingParen (found : String)
  | expectedMember (found : String)
  /-- Groups, operators before operands and right operands nest too deeply. -/
  | tooDeep (limit : Nat)
  /-- The expression was complete, but tokens follow it. -/
  | trailingTokens (texts : List String)
  deriving DecidableEq

/-- The tables of operations, one for each group of kinds that an operator family is defined on. -/
inductive OperationTable where
  | intArithmetic
  | uintArithmetic
  | floatArithmetic
  | equality
  | ordering
  | logic
  | bitwise
  deriving DecidableEq

/-- Why an expression has no value. -/
inductive EvalError where
  | symbolNotFound (name : String)
  | typeMismatch (op : String) (left right : Kind)
  | invalidType (op : String) (kind : Kind)
  | memberNotFound (object member : String)
  | nilDereference
  | divisionByZero
  | overflow (op : String)
  | shiftOutOfRange (count : String)
  | literalTooLarge (text : String)
  | notBoolean (kind : Kind)
  /-- A table of operations was given an operator that it does not hold. Evaluation routes every
  operator to its own table, so this comes only of using a table directly. -/
  | misrouted (table : OperationTable)
  deriving DecidableEq

inductive Failure where
  | lex (error : LexError)
  | parse (error : ParseError)
  | eval (error : EvalError)
  deriving DecidableEq

inductive Cause where
  | failed (failure : Failure)
  | unsatisfied
  deriving DecidableEq

structure CheckError where
  typeName : String
  field : String
  value : String
  predicate : String
  cause : Cause
  deriving DecidableEq

/-- A lexing error that the parser met is filed as one. -/
def Failure.ofParse : ParseError → Failure
  | .lex error => .lex error
  | error => .parse error

theorem Failure.ofParse_ne_parse_lex (error : ParseError) (e : LexError) :
    Failure.ofParse error ≠ .parse (.lex e) := by
  cases error <;> simp [ofParse]

end FieldPredicate
