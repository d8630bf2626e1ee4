/-!
# Binary floating point of 64 bits

A finite number is `± mantissa · 2 ^ exponent` with a mantissa of at most 53 bits, kept in normal
form, so that equal numbers of the same sign are equal values of the type. The type holds the number
itself and no bit pattern: rounding is done on exact ratios of whole numbers, and statements about
these numbers are statements about `Nat` and `Int`.
-/

namespace SqlDialect

/-- The normal form of a magnitude: 53 bits, the top one set unless the exponent is the least. -/
def Binary64.Normal (mantissa : Nat) (exponent : Int) : Prop :=
  mantissa < Nat.pow 2 53 ∧ -1074 ≤ exponent ∧ exponent ≤ 971 ∧
    (Nat.pow 2 52 ≤ mantissa ∨ exponent = -1074)

instance (mantissa : Nat) (exponent : Int) : Decidable (Binary64.Normal mantissa exponent) := by
  unfold Binary64.Normal; infer_instance

/-- A binary floating point number of 64 bits. -/
inductive Binary64 where
  /-- No number; all of them are one value. -/
  | nan
  /-- Beyond the largest finite number. -/
  | infinite (negative : Bool)
  /-- `mantissa · 2 ^ exponent`, or its opposite; zero has both signs. -/
  | finite (negative : Bool) (mantissa : Nat) (exponent : Int)
      (normal : Binary64.Normal mantissa exponent)
deriving DecidableEq

namespace Binary64

/-- Zero with a sign. -/
def zero (negative : Bool) : Binary64 :=
  .finite negative 0 (-1074) (by decide)

/-- The number `mantissa · 2 ^ exponent` if it is in normal form, else an infinity. -/
def ofNormal (negative : Bool) (mantissa : Nat) (exponent : Int) : Binary64 :=
  if h : Normal mantissa exponent then .finite negative mantissa exponent h
  else .infinite negative

/-! ## Rounding -/

/-- The whole number nearest to `numerator / denominator`, an even one of two that are equally
near. -/
def nearestEven (numerator denominator : Nat) : Nat :=
  let quotient := numerator / denominator
  let twice := 2 * (numerator % denominator)
  if twice < denominator then quotient
  else if denominator < twice then quotient + 1
  else if quotient % 2 = 0 then quotient
  else quotient + 1

/-- `numerator / denominator · 2 ^ (-exponent)` as a pair of whole numbers. -/
def scaled (numerator denominator : Nat) (exponent : Int) : Nat × Nat :=
  if 0 ≤ exponent then (numerator, denominator * Nat.pow 2 exponent.toNat)
  else (numerator * Nat.pow 2 (-exponent).toNat, denominator)

/-- The largest `e` with `2 ^ e ≤ numerator / denominator`, for positive arguments. -/
def floorLog2 (numerator denominator : Nat) : Int :=
  let guess : Int := (Nat.log2 numerator : Int) - Nat.log2 denominator
  let (n, d) := scaled numerator denominator guess
  if d ≤ n then guess else guess - 1

/-- The number nearest to `numerator / denominator`, with an even mantissa when two are equally
near. -/
def ofRatio (negative : Bool) (numerator denominator : Nat) : Binary64 :=
  if numerator = 0 then zero negative
  else
    let exponent := max (floorLog2 numerator denominator - 52) (-1074)
    let (n, d) := scaled numerator denominator exponent
    let mantissa := nearestEven n d
    if mantissa = Nat.pow 2 53 then ofNormal negative (Nat.pow 2 52) (exponent + 1)
    else ofNormal negative mantissa exponent

/-- The number nearest to an integer. -/
def ofInt (i : Int) : Binary64 :=
  ofRatio (i < 0) i.natAbs 1

/-! ## Parts of a number -/

/-- The magnitude `mantissa · 2 ^ exponent` as a ratio of whole numbers. -/
def ratio (mantissa : Nat) (exponent : Int) : Nat × Nat :=
  if 0 ≤ exponent then (mantissa * Nat.pow 2 exponent.toNat, 1)
  else (mantissa, Nat.pow 2 (-exponent).toNat)

/-- Whether a number is finite. -/
def isFinite : Binary64 → Bool
  | .finite .. => true
  | _ => false

/-- What stands behind the point, with the sign of the number. -/
def fraction : Binary64 → Binary64
  | .finite negative mantissa exponent _ =>
    let (n, d) := ratio mantissa exponent
    ofRatio negative (n % d) d
  | _ => .nan

/-- What stands before the point, as an integer of 64 bits: the nearest of these for a number beyond
them, and zero for what is no number. -/
def toInt64 : Binary64 → Int64
  | .nan => 0
  | .infinite negative => if negative then Int64.minValue else Int64.maxValue
  | .finite negative mantissa exponent _ =>
    let (n, d) := ratio mantissa exponent
    .ofIntClamp (if negative then -((n / d : Nat) : Int) else ((n / d : Nat) : Int))

/-! ## Order -/

/-- A finite number counted in units of `2 ^ (-1074)`, the least positive number. -/
def units (negative : Bool) (mantissa : Nat) (exponent : Int) : Int :=
  let magnitude := mantissa * Nat.pow 2 (exponent + 1074).toNat
  if negative then -(magnitude : Int) else magnitude

/-- How two numbers compare, whatever the signs of zeros; what is no number compares with none. -/
def compare? : Binary64 → Binary64 → Option Ordering
  | .finite negative mantissa exponent _, .finite negative' mantissa' exponent' _ =>
    some (compare (units negative mantissa exponent) (units negative' mantissa' exponent'))
  | .infinite negative, .infinite negative' => some (compare negative' negative)
  | .infinite negative, .finite .. => some (if negative then .lt else .gt)
  | .finite .., .infinite negative => some (if negative then .gt else .lt)
  | _, _ => none

/-- Whether a number is zero, of either sign. -/
def isZero (x : Binary64) : Bool :=
  x.compare? (zero false) = some .eq

instance : LT Binary64 := ⟨fun x y => x.compare? y = some .lt⟩

instance (x y : Binary64) : Decidable (x < y) :=
  inferInstanceAs (Decidable (x.compare? y = some .lt))

instance : LE Binary64 := ⟨fun x y => x.compare? y = some .lt ∨ x.compare? y = some .eq⟩

instance (x y : Binary64) : Decidable (x ≤ y) :=
  inferInstanceAs (Decidable (x.compare? y = some .lt ∨ x.compare? y = some .eq))

end Binary64
end SqlDialect
