import FieldPredicate.Numeral

/-!
# Runs of digits in bytes

A run of digits at the start of UTF-8 text is measured in bytes by a scan that keeps two numbers.
The index goes past an underscore before it is known whether a digit follows, and the length is
where the last digit ended.
-/

namespace FieldPredicate.Radix

/-- The byte is a digit if it is one as a character, which no byte of a longer encoding is. -/
def isDigitByte (radix : Radix) (byte : UInt8) : Bool :=
  radix.isDigit (Char.ofUInt8 byte)

def underscoreByte : UInt8 := 0x5f

/-- The index itself, or the one behind an underscore that stands there. -/
def skipUnderscore (bytes : List UInt8) (index : Nat) : Nat :=
  if bytes[index]? = some underscoreByte then index + 1 else index

theorem le_skipUnderscore (bytes : List UInt8) (index : Nat) :
    index ≤ skipUnderscore bytes index := by
  unfold skipUnderscore
  split
  · exact Nat.le_succ index
  · exact Nat.le_refl index

/-- The scan from an index on, where a run of the given length has been seen. -/
def scanDigits (radix : Radix) (bytes : List UInt8) (index length : Nat) : Nat :=
  let next := skipUnderscore bytes index
  match _h : bytes[next]? with
  | some byte =>
      if radix.isDigitByte byte then radix.scanDigits bytes (next + 1) (next + 1) else length
  | none => length
termination_by bytes.length - index
decreasing_by
  have hle : index ≤ skipUnderscore bytes index := le_skipUnderscore bytes index
  obtain ⟨hlt, -⟩ := List.getElem?_eq_some_iff.mp _h
  omega

/-- The length in bytes of the run of digits at the start of UTF-8 text. -/
def digitRunBytes (radix : Radix) (bytes : List UInt8) : Nat :=
  radix.scanDigits bytes 0 0

end FieldPredicate.Radix
