-- The decimal text of a binary number: the fewest digits that read back as the number, and
-- of those the nearest to it.

import SourceNames.Number.Binary64

namespace SourceNames

/-! ## Digits -/

/-- A decimal: a whole number times a power of ten. -/
structure Decimal where
  digits : Nat
  power : Int
  deriving DecidableEq, Repr

/-- A power of ten as a fraction. -/
def powerOfTen (power : Int) : Nat × Nat :=
  if 0 ≤ power then (Nat.pow 10 power.toNat, 1) else (1, Nat.pow 10 (-power).toNat)

/-- The reals that round to a binary number, in quarters of its last bit: the number, the
two ends, the size of a quarter as a fraction, and whether the ends belong to it. -/
structure RoundingInterval where
  middle : Nat
  low : Nat
  high : Nat
  quarter : Nat × Nat
  closed : Bool

/-- The interval of a mantissa and exponent. Below a power of two the neighbour is nearer,
and an even mantissa takes the ends. -/
def RoundingInterval.of (mantissa : Nat) (exponent : Int) : RoundingInterval :=
  let below := if mantissa = mantissaBound / 2 ∧ -1074 < exponent then 1 else 2
  { middle := 4 * mantissa
    low := 4 * mantissa - below
    high := 4 * mantissa + 2
    quarter :=
      if 2 ≤ exponent then (Nat.pow 2 (exponent - 2).toNat, 1)
      else (1, Nat.pow 2 (2 - exponent).toNat)
    closed := mantissa % 2 = 0 }

/-- Whether a decimal lies in the interval. -/
def RoundingInterval.holds (i : RoundingInterval) (d : Decimal) : Bool :=
  let ten := powerOfTen d.power
  let place := d.digits * ten.1 * i.quarter.2
  let low := i.low * i.quarter.1 * ten.2
  let high := i.high * i.quarter.1 * ten.2
  if i.closed then low ≤ place && place ≤ high else low < place && place < high

/-- The two neighbours of the number among the multiples of a power of ten, and whether the
upper one is the better: nearer, or as near and even. -/
def RoundingInterval.neighbours (i : RoundingInterval) (power : Int) :
    Decimal × Decimal × Bool :=
  let ten := powerOfTen power
  let num := i.middle * i.quarter.1 * ten.2
  let den := i.quarter.2 * ten.1
  let low := num / den
  (⟨low, power⟩, ⟨low + 1, power⟩, roundHalfEven num den == low + 1)

/-- The better of the two neighbours that lie in the interval, if one does. -/
def RoundingInterval.decimalAt (i : RoundingInterval) (power : Int) : Option Decimal :=
  let (low, high, upper) := i.neighbours power
  match i.holds low, i.holds high with
  | true, true => some (if upper then high else low)
  | true, false => some low
  | false, true => some high
  | false, false => none

/-- The least power of ten above the number, searched near the one its bits suggest. -/
def RoundingInterval.magnitude (i : RoundingInterval) : Int :=
  let num := i.middle * i.quarter.1
  let bits : Int := (num.log2 : Int) - i.quarter.2.log2
  let start := bits * 30103 / 100000 - 1
  let above (k : Nat) : Bool :=
    let ten := powerOfTen (start + k)
    num * ten.2 < ten.1 * i.quarter.2
  start + ((List.range 5).find? above).getD 5

/-- The shortest decimal that reads back as the number, tried with one digit, then two, up
to the seventeen that always suffice. -/
def shortestDecimal (mantissa : Nat) (exponent : Int) : Decimal :=
  let interval := RoundingInterval.of mantissa exponent
  let magnitude := interval.magnitude
  let tried := (List.range 17).findSome? fun (n : Nat) => interval.decimalAt (magnitude - (n + 1))
  tried.getD (interval.neighbours (magnitude - 17)).1

/-! ## Layout -/

/-- How digits are laid out: where positional writing ends on both sides. -/
structure DecimalLayout where
  leastPoint : Int
  greatestPoint : Int

/-- Numbers from 10^-4 up to 10^16 are written in full, others with a power of ten. -/
def plainLayout : DecimalLayout := ⟨-4, 16⟩

/-- Digits with a point after the first `point` of them. -/
def positional (digits : List Char) (point : Int) : List Char :=
  if point ≤ 0 then '0' :: '.' :: List.replicate (-point).toNat '0' ++ digits
  else if digits.length ≤ point.toNat then
    digits ++ List.replicate (point.toNat - digits.length) '0' ++ ['.', '0']
  else digits.take point.toNat ++ '.' :: digits.drop point.toNat

/-- Digits with one before the point, and a signed power of at least two digits. -/
def scientific (digits : List Char) (point : Int) : List Char :=
  let mantissa :=
    match digits with
    | first :: next :: rest => first :: '.' :: next :: rest
    | short => short
  let power := point - 1
  let size := Nat.toDigits 10 power.natAbs
  mantissa ++ 'e' :: (if power < 0 then '-' else '+')
    :: List.replicate (2 - size.length) '0' ++ size

def DecimalLayout.write (layout : DecimalLayout) (d : Decimal) : List Char :=
  let all := Nat.toDigits 10 d.digits
  let digits := (all.reverse.dropWhile (· == '0')).reverse
  let point := (all.length : Int) + d.power
  if layout.leastPoint < point ∧ point ≤ layout.greatestPoint then positional digits point
  else scientific digits point

/-- The text of a binary number, given the words for what is not finite. -/
def Binary64.text (infinity notANumber : String) : Binary64 → String
  | .undefined => notANumber
  | .infinite negative => (if negative then "-" else "") ++ infinity
  | .finite negative mantissa exponent =>
    let digits :=
      if mantissa = 0 then ['0', '.', '0']
      else plainLayout.write (shortestDecimal mantissa exponent)
    String.ofList ((if negative then ['-'] else []) ++ digits)

end SourceNames
