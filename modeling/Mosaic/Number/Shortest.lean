import Mosaic.Number.Binary64

/-!
# The shortest decimal text of a number

A binary number is written with the fewest decimal digits that read back as the same number, and of
several such rows of digits with the nearest one.  For one digit, two digits and so on, only the two
decimals on either side of the number need to be tried: if any decimal of that length reads back,
one of these two does.
-/

namespace Mosaic
namespace Binary64

/-- A positive quotient together with the interval of numbers that round to it. -/
structure Interval where
  low : Nat
  value : Nat
  high : Nat
  den : Nat
  closed : Bool

/-- The interval of a positive number: half a unit to either side, and only a quarter below the
least mantissa of an exponent; its ends belong to it if the mantissa is even. -/
def intervalOf (mantissa : Nat) (exponent : Int) : Interval :=
  let lower :=
    if mantissa = Nat.pow 2 52 && leastExponent < exponent then 4 * mantissa - 1 else 4 * mantissa - 2
  let power := exponent - 2
  let factor := if power < 0 then 1 else Nat.pow 2 power.natAbs
  { low := lower * factor
    value := 4 * mantissa * factor
    high := (4 * mantissa + 2) * factor
    den := if power < 0 then Nat.pow 2 power.natAbs else 1
    closed := mantissa % 2 = 0 }

def Interval.inUnits (interval : Interval) (power : Int) : Interval :=
  let factor := Nat.pow 10 power.natAbs
  if power < 0 then
    { interval with
      low := interval.low * factor, value := interval.value * factor, high := interval.high * factor }
  else { interval with den := interval.den * factor }

def Interval.holds (interval : Interval) (units : Nat) : Bool :=
  let scaled := units * interval.den
  if interval.closed then interval.low ≤ scaled && scaled ≤ interval.high
  else interval.low < scaled && scaled < interval.high

/-- The neighbour of the number on the grid of whole units that reads back, the nearer of two. -/
def Interval.neighbour? (interval : Interval) : Option Nat :=
  let below := interval.value / interval.den
  let remainder := interval.value % interval.den
  match interval.holds below, interval.holds (below + 1) with
  | true, true =>
      if 2 * remainder < interval.den then some below
      else if interval.den < 2 * remainder then some (below + 1)
      else if below % 2 = 0 then some below
      else some (below + 1)
  | true, false => some below
  | false, true => some (below + 1)
  | false, false => none

def leadingPower (num den : Nat) : Int :=
  if den ≤ num then ((Nat.repr (num / den)).length : Int) - 1
  else -((Nat.repr ((den - 1) / num)).length : Int)

/-- The shortest decimal of a positive number, as a whole number times a power of ten, trying at
most the given number of lengths, the first of them with the given power. -/
def searchShortest (interval : Interval) : Nat -> Int -> Nat × Int
  | 0, power => ((interval.inUnits power).value / (interval.inUnits power).den, power)
  | tries + 1, power =>
      match (interval.inUnits power).neighbour? with
      | some units => (units, power)
      | none => searchShortest interval tries (power - 1)

def shortest (mantissa : Nat) (exponent : Int) : Nat × Int :=
  let interval := intervalOf mantissa exponent
  searchShortest interval 17 (leadingPower interval.value interval.den)

def positional (digits : List Char) (point : Int) : List Char :=
  let count := digits.length
  if point ≤ 0 then '0' :: '.' :: (List.replicate point.natAbs '0' ++ digits)
  else if (count : Int) ≤ point then
    digits ++ List.replicate (point.natAbs - count) '0' ++ ['.', '0']
  else digits.take point.natAbs ++ '.' :: digits.drop point.natAbs

def scientific (digits : List Char) (power : Int) : List Char :=
  let fraction := if digits.length ≤ 1 then [] else '.' :: digits.drop 1
  let size := (Nat.repr power.natAbs).toList
  digits.take 1 ++ fraction ++ 'e' :: (if power < 0 then '-' else '+') ::
    (if size.length < 2 then '0' :: size else size)

/-- A positive number in decimal: positional from a ten-thousandth up to below 10^16, and with a
power of ten outside. -/
def magnitudeText (mantissa : Nat) (exponent : Int) : List Char :=
  let (units, power) := shortest mantissa exponent
  let row := (Nat.repr units).toList
  let digits := (row.reverse.dropWhile (· == '0')).reverse
  let point := (row.length : Int) + power
  if -4 < point && point ≤ 16 then positional digits point else scientific digits (point - 1)

def finiteText (negative : Bool) (mantissa : Nat) (exponent : Int) : List Char :=
  (if negative then ['-'] else []) ++
    (if mantissa = 0 then ['0', '.', '0'] else magnitudeText mantissa exponent)

end Binary64
end Mosaic
