/-!
# Numerals

The digits of the four radices, and runs of digits in which single underscores may stand before a
digit.
-/

namespace FieldPredicate

inductive Radix where
  | binary
  | octal
  | decimal
  | hexadecimal
  deriving DecidableEq

/-- The value of a digit, by letters of either case from ten on. -/
def digitValue? (base : Nat) (c : Char) : Option Nat :=
  let value :=
    if '0' ≤ c ∧ c ≤ '9' then c.toNat - 48
    else if 'a' ≤ c ∧ c ≤ 'z' then c.toNat - 87
    else if 'A' ≤ c ∧ c ≤ 'Z' then c.toNat - 55
    else base
  if value < base then some value else none

namespace Radix

def base : Radix → Nat
  | .binary => 2
  | .octal => 8
  | .decimal => 10
  | .hexadecimal => 16

/-- The radix that a letter after a leading zero announces. -/
def ofMarker? : Char → Option Radix
  | 'b' | 'B' => some .binary
  | 'o' | 'O' => some .octal
  | 'h' | 'H' => some .hexadecimal
  | _ => none

/-- What is missing where a digit of the radix is. -/
def digitName : Radix → String
  | .binary => "binary digit"
  | .octal => "octal digit"
  | .decimal => "decimal digit"
  | .hexadecimal => "hexadecimal digit"

def isDigit (radix : Radix) (c : Char) : Bool :=
  (digitValue? radix.base c).isSome

/-- The length of the longest run of digits at the start of the text, each of which may follow one
underscore. -/
def digitRunLength (radix : Radix) : List Char → Nat
  | '_' :: c :: rest => if radix.isDigit c then radix.digitRunLength rest + 2 else 0
  | c :: rest => if radix.isDigit c then radix.digitRunLength rest + 1 else 0
  | [] => 0

theorem digitRunLength_le (radix : Radix) (cs : List Char) :
    radix.digitRunLength cs ≤ cs.length := by
  fun_induction digitRunLength radix cs with
  | case1 c rest _ ih =>
      simp only [List.length_cons]
      omega
  | case3 c rest _ _ ih =>
      simp only [List.length_cons]
      omega
  | _ => exact Nat.zero_le _

end Radix

end FieldPredicate
