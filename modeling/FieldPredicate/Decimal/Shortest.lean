import FieldPredicate.Decimal.Binary

/-!
# Shortest decimals

The decimal of a float has the fewest digits that lie in the interval of numbers that round to the
float, ends included if the significand is even. Of the decimals of that length it is the nearest,
and the greater one at a tie. It is written without an exponent.
-/

namespace FieldPredicate.Decimal

def digitCount (n : Nat) : Nat :=
  (Nat.toDigits 10 n).length

/-- The least exponent of a power of ten above the positive number `num / den`. -/
def leadingExponent (num den : Nat) : Int :=
  if den ≤ num then digitCount (num / den)
  else 1 - (digitCount ((den + num - 1) / num - 1) : Nat)

/-- The interval of the numbers that round to a float, over a common denominator. -/
structure Interval where
  low : Nat
  value : Nat
  high : Nat
  den : Nat
  closed : Bool

namespace Interval

def ofBinary (significand : Nat) (exponent : Int) (narrow : Bool) : Interval :=
  let scale := Nat.pow 2 exponent.toNat
  ⟨(4 * significand - if narrow then 1 else 2) * scale, 4 * significand * scale,
    (4 * significand + 2) * scale, 4 * Nat.pow 2 (-exponent).toNat, significand % 2 = 0⟩

/-- The interval in units of a power of ten. -/
def scaled (i : Interval) (exponent : Int) : Interval :=
  let up := Nat.pow 10 (-exponent).toNat
  ⟨i.low * up, i.value * up, i.high * up, i.den * Nat.pow 10 exponent.toNat, i.closed⟩

def holds (i : Interval) (n : Nat) : Bool :=
  if i.closed then i.low ≤ n * i.den && n * i.den ≤ i.high
  else i.low < n * i.den && n * i.den < i.high

/-- The whole number of units in the interval that is nearest to the value. -/
def nearest? (i : Interval) : Option Nat :=
  let below := i.value / i.den
  match i.holds below, i.holds (below + 1) with
  | true, true => some (if 2 * (i.value % i.den) < i.den then below else below + 1)
  | true, false => some below
  | false, true => some (below + 1)
  | false, false => none

/-- A decimal without the last zero that rounding up to ten units leaves. -/
def dropZero (digits : Nat) (exponent : Int) : Nat × Int :=
  if digits % 10 = 0 then (digits / 10, exponent + 1) else (digits, exponent)

/-- The shortest decimal in the interval with at most `fuel` digits more than `taken`, as digits
and a power of ten. -/
def search (i : Interval) (leading : Int) : Nat → Nat → Nat × Int
  | 0, taken => (i.value / i.den, leading - taken)
  | fuel + 1, taken =>
      let exponent := leading - (taken + 1 : Nat)
      match (i.scaled exponent).nearest? with
      | some digits => dropZero digits exponent
      | none => search i leading fuel (taken + 1)

/-- The shortest decimal in the interval. Seventeen digits tell all floats apart. -/
def shortest (i : Interval) : Nat × Int :=
  i.search (leadingExponent i.value i.den) 17 0

end Interval

/-- The decimal `digits * 10 ^ exponent`, written without an exponent. -/
def positional (digits : Nat) (exponent : Int) : List Char :=
  let text := Nat.toDigits 10 digits
  let places := (-exponent).toNat
  if places = 0 then text ++ List.replicate exponent.toNat '0'
  else if text.length ≤ places then
    '0' :: '.' :: List.replicate (places - text.length) '0' ++ text
  else text.take (text.length - places) ++ '.' :: text.drop (text.length - places)

def Magnitude.render : Magnitude → List Char
  | .nan => "NaN".toList
  | .infinite => "inf".toList
  | .finite 0 _ _ => ['0']
  | .finite significand exponent narrow =>
      let (digits, power) := (Interval.ofBinary significand exponent narrow).shortest
      positional digits power

/-- The text of a float, from its bits. Zero keeps its sign, and what is not a number has none. -/
def BinaryFormat.render (format : BinaryFormat) (bits : Nat) : String :=
  match format.decode bits with
  | (_, .nan) => String.ofList Magnitude.nan.render
  | (true, magnitude) => String.ofList ('-' :: magnitude.render)
  | (false, magnitude) => String.ofList magnitude.render

end FieldPredicate.Decimal
