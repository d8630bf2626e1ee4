import SqlDialect.Number.Binary64
import SqlDialect.Text.Digits

/-!
# Shortest decimal digits

The fewest decimal digits that read back as a given binary number, and of those the digits nearest
to it. All arithmetic is on whole numbers. A grid is the set of the multiples of a power of ten; if
a point of a grid reads back as the number then so does one of the two points next to the number,
so only these two are tried on each grid, from the coarsest one on.
-/

namespace SqlDialect.Shortest

/-- Which of two equally near decimals is taken. -/
inductive Tie where
  /-- The one with the even last digit. -/
  | toEven
  /-- The one of larger magnitude. -/
  | up
deriving DecidableEq

/-- A decimal `coefficient · 10 ^ exponent`. -/
structure Digits where
  /-- The digits as a whole number. -/
  coefficient : Nat
  /-- The power of ten of the last digit. -/
  exponent : Int
deriving DecidableEq

/-- The magnitudes that read back as one binary number: those between `low` and `high`, counted in
quarters of the unit in the last place. -/
structure Interval where
  /-- The number itself. -/
  middle : Nat
  /-- The lower end. -/
  low : Nat
  /-- The upper end. -/
  high : Nat
  /-- Whether the ends belong to the interval. -/
  closed : Bool

/-- The interval of a mantissa. The neighbour below is at half the distance when the mantissa is
the least one of its exponent. -/
def Interval.ofMantissa (mantissa : Nat) (exponent : Int) : Interval where
  middle := 4 * mantissa
  low :=
    if mantissa = Nat.pow 2 52 ∧ -1074 < exponent then 4 * mantissa - 1 else 4 * mantissa - 2
  high := 4 * mantissa + 2
  closed := mantissa % 2 = 0

/-- The largest `k` with `10 ^ k ≤ numerator / denominator`, for positive arguments. -/
def floorLog10 (numerator denominator : Nat) : Int :=
  if denominator ≤ numerator then ((Text.digits (numerator / denominator)).length : Int) - 1
  else
    let places := (Text.digits (denominator / numerator)).length
    if numerator * Nat.pow 10 (places - 1) = denominator then 1 - (places : Int)
    else -(places : Int)

/-- A unit of `2 ^ binary` measured against `10 ^ decimal`: `x` units are `x * unit` against
`c * step` for the grid point `c`. -/
structure Scale where
  /-- The size of one unit. -/
  unit : Nat
  /-- The size of one step of the grid. -/
  step : Nat

/-- Both sizes multiplied by the same number, so that they are whole. -/
def Scale.of (binary decimal : Int) : Scale where
  unit := Nat.pow 2 binary.toNat * Nat.pow 10 (-decimal).toNat
  step := Nat.pow 2 (-binary).toNat * Nat.pow 10 decimal.toNat

/-- Whether a grid point lies in the interval. -/
def Scale.contains (scale : Scale) (interval : Interval) (point : Nat) : Bool :=
  let low := interval.low * scale.unit
  let high := interval.high * scale.unit
  let value := point * scale.step
  if interval.closed then low ≤ value && value ≤ high else low < value && value < high

/-- The grid point in the interval that is nearest to its middle, if there is one. -/
def Scale.nearest? (tie : Tie) (scale : Scale) (interval : Interval) : Option Nat :=
  let value := interval.middle * scale.unit
  let below := value / scale.step
  let above := below + 1
  match scale.contains interval below, scale.contains interval above with
  | false, false => none
  | true, false => some below
  | false, true => some above
  | true, true =>
    let down := value - below * scale.step
    let up := above * scale.step - value
    if down < up then some below
    else if up < down then some above
    else
      match tie with
      | .up => some above
      | .toEven => some (if below % 2 = 0 then below else above)

/-- Tries the grids with `count`, `count + 1`, … digits, `tries` of them. -/
def search (tie : Tie) (interval : Interval) (binary order : Int) : Nat → Nat → Option Digits
  | _, 0 => none
  | count, tries + 1 =>
    let exponent := order + 1 - (count : Int)
    match (Scale.of binary exponent).nearest? tie interval with
    | some coefficient => some ⟨coefficient, exponent⟩
    | none => search tie interval binary order (count + 1) tries

/-- Trailing zeros of the coefficient moved into the exponent, at most `limit` of them. -/
def Digits.stripped : Nat → Digits → Digits
  | 0, d => d
  | limit + 1, d =>
    if d.coefficient ≠ 0 ∧ d.coefficient % 10 = 0 then
      Digits.stripped limit ⟨d.coefficient / 10, d.exponent + 1⟩
    else d

/-- The shortest digits of a positive magnitude. Seventeen digits always suffice. -/
def digits (tie : Tie) (mantissa : Nat) (exponent : Int) : Digits :=
  let (n, d) := Binary64.ratio mantissa exponent
  let order := floorLog10 n d
  let found := search tie (Interval.ofMantissa mantissa exponent) (exponent - 2) order 1 17
  (found.getD ⟨0, 0⟩).stripped 20

end SqlDialect.Shortest
