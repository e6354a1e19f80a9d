/-!
# Binary floating-point formats

A finite float is a sign, a significand and a power of two. `decode` reads them off the bits of
either format.
-/

namespace FieldPredicate.Decimal

/-- The widths of a binary interchange format: its stored significand and its exponent. -/
structure BinaryFormat where
  significandBits : Nat
  exponentBits : Nat

def binary32 : BinaryFormat := ⟨23, 8⟩

def binary64 : BinaryFormat := ⟨52, 11⟩

inductive Magnitude where
  | nan
  | infinite
  /-- The number `significand * 2 ^ exponent`. If `narrow`, it is a power of two, and the numbers
  below it that round to it reach half as far as those above it. -/
  | finite (significand : Nat) (exponent : Int) (narrow : Bool)

/-- The sign bit and the magnitude of a float, from its bits. -/
def BinaryFormat.decode (format : BinaryFormat) (bits : Nat) : Bool × Magnitude :=
  let hidden := Nat.pow 2 format.significandBits
  let limit := Nat.pow 2 format.exponentBits
  let fraction := bits % hidden
  let biased := bits / hidden % limit
  let lowest : Int := 2 - (limit / 2 : Nat) - format.significandBits
  let magnitude :=
    if biased + 1 = limit then if fraction = 0 then .infinite else .nan
    else if biased = 0 then .finite fraction lowest false
    else .finite (hidden + fraction) (lowest + biased - 1) (fraction = 0)
  (bits / hidden / limit % 2 = 1, magnitude)

end FieldPredicate.Decimal
