import FieldPredicate.Error
import FieldPredicate.Numeral

/-!
# Integer literals

A literal names its radix by `0b`, `0o` or `0h`, by a bare leading zero for octal, and is decimal
otherwise. Its value has to fit a signed 64-bit integer.
-/

namespace FieldPredicate.Literal

/-- The radix of a literal and its digits, with their underscores. -/
def split : List Char → Radix × List Char
  | ['0'] => (.decimal, ['0'])
  | '0' :: c :: rest =>
      match Radix.ofMarker? c with
      | some radix => (radix, rest)
      | none => (.octal, c :: rest)
  | text => (.decimal, text)

/-- The number that digits denote, most significant first, after those already read. -/
def magnitude? (base : Nat) : Nat → List Char → Option Nat
  | read, [] => some read
  | read, c :: rest =>
      match digitValue? base c with
      | some d => magnitude? base (read * base + d) rest
      | none => none

def natural? (base : Nat) : List Char → Option Nat
  | [] => none
  | digits => magnitude? base 0 digits

/-- The number that digits with at most one sign before them denote. -/
def number? (base : Nat) : List Char → Option Int
  | '-' :: digits => (natural? base digits).map fun n => -(n : Int)
  | '+' :: digits => (natural? base digits).map Int.ofNat
  | digits => (natural? base digits).map Int.ofNat

def fitInt64? (n : Int) : Option Int64 :=
  if Int64.minValue.toInt ≤ n ∧ n ≤ Int64.maxValue.toInt then some (Int64.ofInt n) else none

def decode (text : String) : Except EvalError Int64 :=
  let (radix, digits) := split text.toList
  match (number? radix.base (digits.filter (· ≠ '_'))).bind fitInt64? with
  | some n => .ok n
  | none => .error (.literalTooLarge text)

end FieldPredicate.Literal
