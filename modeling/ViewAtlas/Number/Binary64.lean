/-!
# Binary fractions of 64 bits

A finite value is a sign, a mantissa of at most 53 bits and a power of two of at least -1074.  `Binary64.ofDecimal` is
the value nearest to a decimal fraction; of two values equally near it takes the one with the even mantissa.
-/
namespace ViewAtlas

/-- **A binary fraction**: `mantissa * 2 ^ exponent` with a sign, an infinity, or no number. -/
inductive Binary64 where
  | finite (negative : Bool) (mantissa : Nat) (exponent : Int)
  | infinite (negative : Bool)
  | undefined
  deriving DecidableEq, Repr

namespace Binary64

def precision : Nat := 53

def leastExponent : Int := -1074

def greatestExponent : Int := 971

/-- The whole number nearest to `num / den`, the even one of two that are equally near. -/
def roundQuotient (num den : Nat) : Nat :=
  let q := num / den
  let twice := 2 * (num % den)
  if twice < den then q else if den < twice then q + 1 else q + q % 2

/-- `num / den` divided by `2 ^ exponent`, as numerator and denominator. -/
def scaled (num den : Nat) (exponent : Int) : Nat × Nat :=
  (num * Nat.pow 2 (-exponent).toNat, den * Nat.pow 2 exponent.toNat)

/-- The exponent with which `num / den` has a mantissa of all the bits, unless the least exponent is greater. -/
def exponentOf (num den : Nat) : Int :=
  let estimate : Int := Nat.log2 num - Nat.log2 den - precision
  let (n, d) := scaled num den estimate
  max leastExponent (if n / d < Nat.pow 2 precision then estimate else estimate + 1)

/-- The value nearest to the positive fraction `num / den`. -/
def ofFraction (negative : Bool) (num den : Nat) : Binary64 :=
  let exponent := exponentOf num den
  let (n, d) := scaled num den exponent
  let mantissa := roundQuotient n d
  let (mantissa, exponent) :=
    if mantissa = Nat.pow 2 precision then (Nat.pow 2 (precision - 1), exponent + 1) else (mantissa, exponent)
  if greatestExponent < exponent then .infinite negative else .finite negative mantissa exponent

/-- **The value nearest to `digits * 10 ^ power`.**  Powers far out of range are told by the number of digits alone.
-/
def ofDecimal (negative : Bool) (digits : Nat) (power : Int) : Binary64 :=
  let size : Int := (Nat.toDigits 10 digits).length + power
  if digits = 0 ∨ size < -330 then .finite negative 0 leastExponent
  else if 320 < size then .infinite negative
  else ofFraction negative (digits * Nat.pow 10 power.toNat) (Nat.pow 10 (-power).toNat)

end Binary64
end ViewAtlas
