/-!
# Binary numbers of 64 bits

A number with a fractional part is kept exactly, as a whole mantissa times a power of two, with the
range of the 64-bit binary format.  Reading a decimal numeral rounds to the nearest such number, a
tie going to the even mantissa.  All of it is arithmetic on whole numbers.
-/

namespace Mosaic

/-- A 64-bit binary number: a mantissa below 2^53 times a power of two, or one of the special values. -/
inductive Binary64
  | nan
  | infinite (negative : Bool)
  | finite (negative : Bool) (mantissa : Nat) (exponent : Int)
  deriving DecidableEq, Repr, Inhabited

namespace Binary64

def leastExponent : Int := -1074

def greatestExponent : Int := 971

/-- A quotient rounded to the nearest whole number, a tie going to the even one. -/
def roundQuotient (num den : Nat) : Nat :=
  let quotient := num / den
  let twice := 2 * (num % den)
  if twice < den then quotient
  else if den < twice then quotient + 1
  else if quotient % 2 = 0 then quotient
  else quotient + 1

def scaleDown (num den : Nat) (exponent : Int) : Nat × Nat :=
  if exponent < 0 then (num * Nat.pow 2 exponent.natAbs, den) else (num, den * Nat.pow 2 exponent.natAbs)

/-- The exponent at which a positive quotient has a mantissa of 53 bits, if it is in range. -/
def exponentOf (num den : Nat) : Int :=
  let guess : Int := (Nat.log2 num : Int) - Nat.log2 den - 52
  let scaled := scaleDown num den guess
  let exact := if scaled.1 < Nat.pow 2 52 * scaled.2 then guess - 1 else guess
  max exact leastExponent

def ofQuotient (negative : Bool) (num den : Nat) : Binary64 :=
  if num = 0 then finite negative 0 leastExponent
  else
    let exponent := exponentOf num den
    let scaled := scaleDown num den exponent
    let mantissa := roundQuotient scaled.1 scaled.2
    let carried := mantissa = Nat.pow 2 53
    let exponent := if carried then exponent + 1 else exponent
    if greatestExponent < exponent then infinite negative
    else finite negative (if carried then Nat.pow 2 52 else mantissa) exponent

/-- The number nearest to a whole number times a power of ten.  Far beyond either end of the range
the power is not worked out. -/
def ofDecimal (negative : Bool) (digits : Nat) (power : Int) : Binary64 :=
  let magnitude : Int := (Nat.repr digits).length + power
  if digits = 0 || magnitude < -400 then finite negative 0 leastExponent
  else if 400 < magnitude then infinite negative
  else if power < 0 then ofQuotient negative digits (Nat.pow 10 power.natAbs)
  else ofQuotient negative (digits * Nat.pow 10 power.natAbs) 1

def wholePart (mantissa : Nat) (exponent : Int) : Nat :=
  if exponent < 0 then mantissa / Nat.pow 2 exponent.natAbs else mantissa * Nat.pow 2 exponent.natAbs

def isWhole (x : Binary64) (n : Int) : Bool :=
  match x with
  | finite negative mantissa exponent =>
      let scaled := if exponent < 0 then n.natAbs * Nat.pow 2 exponent.natAbs else n.natAbs
      let value := if exponent < 0 then mantissa else mantissa * Nat.pow 2 exponent.natAbs
      scaled == value && (n == 0 || negative == decide (n < 0))
  | _ => false

/-- Equality of numbers: the two zeros are equal, and so are values that are no numbers. -/
def same : Binary64 -> Binary64 -> Bool
  | nan, nan => true
  | infinite left, infinite right => left == right
  | finite leftSign leftMantissa leftExponent, finite rightSign rightMantissa rightExponent =>
      leftMantissa == rightMantissa &&
        (leftMantissa == 0 || (leftSign == rightSign && leftExponent == rightExponent))
  | _, _ => false

def ofQuarters (quarters : Nat) : Binary64 := ofQuotient false quarters 4

end Binary64
end Mosaic
