import SqlDialect.Number.Shortest

/-!
# Written forms of a binary number

The shortest digits of a number are laid out either positionally or with a power of ten. A
`NumberLayout` holds the choices of one written form; the two forms that this library writes are
`plain` and `json`.
-/

namespace SqlDialect

/-- The choices of a written form. -/
structure NumberLayout where
  /-- The powers of ten of the first digit that are written positionally, from `fst` up to but not
  including `snd`; all of them when there is no bound. -/
  positional : Option (Int × Int)
  /-- What follows a whole number that is written positionally. -/
  wholeMark : String
  /-- Which of two equally near decimals is written. -/
  tie : Shortest.Tie

namespace NumberLayout

/-- Never a power of ten, and no mark on whole numbers: `1`, `0.0000001`. -/
def plain : NumberLayout := ⟨none, "", .up⟩

/-- A power of ten below `10 ^ (-5)` and from `10 ^ 16` on; a whole number keeps a point:
`1.0`, `1e-7`, `1e+16`. -/
def json : NumberLayout := ⟨some (-5, 16), ".0", .toEven⟩

/-- Digits with the point in their place. -/
def positionalText (wholeMark : String) (d : Shortest.Digits) : List Char :=
  let ds := Text.digits d.coefficient
  if 0 ≤ d.exponent then
    ds ++ List.replicate d.exponent.toNat '0' ++ wholeMark.toList
  else
    let places := (-d.exponent).toNat
    if places < ds.length then
      ds.take (ds.length - places) ++ '.' :: ds.drop (ds.length - places)
    else '0' :: '.' :: (List.replicate (places - ds.length) '0' ++ ds)

/-- Digits with the point after the first one, and the power of ten with its sign. -/
def exponentialText (d : Shortest.Digits) : List Char :=
  let ds := Text.digits d.coefficient
  let order := d.exponent + ds.length - 1
  let tail := ds.drop 1
  let sign := if order < 0 then '-' else '+'
  ds.take 1 ++ (if tail = [] then [] else '.' :: tail) ++
    'e' :: sign :: Text.digits order.natAbs

/-- The text of a magnitude. -/
def magnitudeText (layout : NumberLayout) (mantissa : Nat) (exponent : Int) : List Char :=
  if mantissa = 0 then '0' :: layout.wholeMark.toList
  else
    let d := Shortest.digits layout.tie mantissa exponent
    let order := d.exponent + (Text.digits d.coefficient).length - 1
    match layout.positional with
    | none => positionalText layout.wholeMark d
    | some (least, bound) =>
      if least ≤ order ∧ order < bound then positionalText layout.wholeMark d
      else exponentialText d

end NumberLayout

/-- The text of a number in a given layout. -/
def Binary64.text (layout : NumberLayout) : Binary64 → List Char
  | .nan => "NaN".toList
  | .infinite false => "inf".toList
  | .infinite true => "-inf".toList
  | .finite negative mantissa exponent _ =>
    (if negative then ['-'] else []) ++ layout.magnitudeText mantissa exponent

end SqlDialect
