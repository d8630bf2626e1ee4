import SqlDialect.Number.Binary64
import SqlDialect.Text.Digits

/-!
# Reading decimal numbers

The written form of a floating point number: an optional sign, then digits with at most one point
among, before or after them, then an optional power of ten; or one of the words `nan`, `inf` and
`infinity` in any case. The value is the nearest number, however many digits there are.
-/

namespace SqlDialect

/-- A decimal number without a sign: a row of digits times a power of ten. -/
structure Decimal where
  /-- The digits of the significand. -/
  digits : List Char
  /-- The power of ten that the significand is multiplied by. -/
  exponent : Int

namespace Decimal

/-- Reads digits with a point: `5`, `5.`, `5.25` and `.25`, but not a point alone. What follows is
the rest. -/
def significand? (cs : List Char) : Option (Decimal × List Char) :=
  let whole := cs.takeWhile Char.isDigit
  match cs.dropWhile Char.isDigit with
  | '.' :: rest =>
    let fraction := rest.takeWhile Char.isDigit
    if whole = [] ∧ fraction = [] then none
    else some (⟨whole ++ fraction, -(fraction.length : Int)⟩, rest.dropWhile Char.isDigit)
  | rest => if whole = [] then none else some (⟨whole, 0⟩, rest)

/-- Reads a power of ten that takes up the whole text: nothing, or `e` and an integer. -/
def power? : List Char → Option Int
  | [] => some 0
  | c :: cs => if c = 'e' ∨ c = 'E' then Text.integer? cs else none

/-- Reads a number without a sign that takes up the whole text. -/
def ofText? (cs : List Char) : Option Decimal := do
  let (number, rest) ← significand? cs
  let power ← power? rest
  return { number with exponent := number.exponent + power }

/-- The nearest binary number. A number at or above `10 ^ 400` is beyond the finite ones, and one
below `10 ^ (-400)` is nearer to zero than to any other, so the power of ten is computed only
between these. -/
def toBinary64 (negative : Bool) (number : Decimal) : Binary64 :=
  let digits := number.digits.dropWhile (· = '0')
  let order := number.exponent + digits.length
  if digits = [] ∨ order < -400 then .zero negative
  else if 400 < order then .infinite negative
  else
    let value := Text.digitsValue digits
    if 0 ≤ number.exponent then .ofRatio negative (value * Nat.pow 10 number.exponent.toNat) 1
    else .ofRatio negative value (Nat.pow 10 (-number.exponent).toNat)

end Decimal

namespace Binary64

/-- Reads a number without its sign. -/
def ofUnsigned? (negative : Bool) (cs : List Char) : Option Binary64 :=
  let word := cs.map Char.toLower
  if word = "nan".toList then some .nan
  else if word = "inf".toList ∨ word = "infinity".toList then some (.infinite negative)
  else (Decimal.ofText? cs).map (·.toBinary64 negative)

/-- Reads the written form of a number. -/
def ofText? (s : String) : Option Binary64 :=
  match s.toList with
  | '-' :: cs => ofUnsigned? true cs
  | '+' :: cs => ofUnsigned? false cs
  | cs => ofUnsigned? false cs

end Binary64
end SqlDialect
