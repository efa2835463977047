-- Binary numbers with 53 bits, in exact integer arithmetic: the one nearest to a fraction,
-- and the one nearest to a decimal. Ties go to the even neighbour.

namespace SourceNames

/-! ## Rounding -/

/-- A fraction rounded to the nearest whole number, a half to the even one. -/
def roundHalfEven (num den : Nat) : Nat :=
  let low := num / den
  let twice := 2 * (num % den)
  if twice < den then low
  else if den < twice then low + 1
  else if low % 2 = 0 then low else low + 1

/-- A fraction divided by a power of two, as a fraction. -/
def dividedByPower (num den : Nat) (exponent : Int) : Nat × Nat :=
  if 0 ≤ exponent then (num, den * Nat.pow 2 exponent.toNat)
  else (num * Nat.pow 2 (-exponent).toNat, den)

/-! ## Numbers -/

/-- The number above all mantissas of 53 bits. -/
def mantissaBound : Nat := 0x20000000000000

/-- A binary number: a mantissa below 2^53 times a power of two no smaller than 2^-1074, or
what lies beyond them. -/
inductive Binary64
  | finite (negative : Bool) (mantissa : Nat) (exponent : Int)
  | infinite (negative : Bool)
  | undefined
  deriving DecidableEq, Repr

namespace Binary64

/-- The number nearest to a fraction: it has 53 bits unless the least power of two stops it
short of that. -/
def nearest (negative : Bool) (num den : Nat) : Binary64 :=
  if num = 0 then .finite negative 0 (-1074)
  else
    let guess : Int := max ((num.log2 : Int) - den.log2 - 53) (-1074)
    let scaled := dividedByPower num den guess
    let exponent := if scaled.1 / scaled.2 < mantissaBound then guess else guess + 1
    let scaled := dividedByPower num den exponent
    let mantissa := roundHalfEven scaled.1 scaled.2
    let (mantissa, exponent) :=
      if mantissa = mantissaBound then (mantissaBound / 2, exponent + 1) else (mantissa, exponent)
    if 971 < exponent then .infinite negative else .finite negative mantissa exponent

/-- How many decimal digits a whole number has. -/
def digitCount (n : Nat) : Nat := (Nat.toDigits 10 n).length

/-- The number nearest to `digits` times a power of ten. Powers far outside the format are
not computed. -/
def ofDecimal (negative : Bool) (digits : Nat) (power : Int) : Binary64 :=
  let size := (digitCount digits : Int) + power
  if digits = 0 ∨ size < -400 then .finite negative 0 (-1074)
  else if 400 < size then .infinite negative
  else if 0 ≤ power then nearest negative (digits * Nat.pow 10 power.toNat) 1
  else nearest negative digits (Nat.pow 10 (-power).toNat)

end Binary64

end SourceNames
