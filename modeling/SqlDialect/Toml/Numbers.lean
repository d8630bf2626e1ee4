import SqlDialect.Number.Decimal
import SqlDialect.Toml.Strings
import SqlDialect.Toml.Value

/-!
# TOML numbers, dates and times

Between two digits of a number there may be one underscore. Dates and times have numbers of fixed
width; a date may stand alone, or be followed by `T`, `t` or one space and a time, and then by a
zone.
-/

namespace SqlDialect.Toml

/-! ## Numbers -/

/-- Reads digits after a first one, with single underscores between them. -/
def moreDigits? (isDigit : Char → Bool) : Nat → Reader (List Char)
  | 0, cs => some ([], cs)
  | _, [] => some ([], [])
  | bound + 1, '_' :: rest =>
    match rest with
    | d :: rest => if isDigit d then consTo d (moreDigits? isDigit bound rest) else none
    | [] => none
  | bound + 1, d :: rest =>
    if isDigit d then consTo d (moreDigits? isDigit bound rest) else some ([], d :: rest)

/-- Reads one or more digits with single underscores between them. -/
def digits? (isDigit : Char → Bool) : Reader (List Char)
  | [] => none
  | d :: rest => if isDigit d then consTo d (moreDigits? isDigit rest.length rest) else none

/-- Takes off a sign; the flag tells whether it is a minus sign. -/
def sign : List Char → Bool × List Char
  | '-' :: rest => (true, rest)
  | '+' :: rest => (false, rest)
  | cs => (false, cs)

/-- Reads the digits of a decimal whole number, which starts with zero only if it is zero. -/
def wholeDigits? : Reader (List Char)
  | '0' :: rest => some (['0'], rest)
  | cs => digits? Char.isDigit cs

/-- Reads the part of a decimal number after its whole part: the places after the point, and the
power of ten. At least one of them is there. -/
def fractionAndPower? : Reader (List Char × Int) := fun cs =>
  let power? : Reader Int
    | c :: rest =>
      if c = 'e' ∨ c = 'E' then do
        let (negative, rest) := sign rest
        let (ds, rest) ← digits? Char.isDigit rest
        let n : Int := Text.digitsValue ds
        return (if negative then -n else n, rest)
      else none
    | [] => none
  match cs with
  | '.' :: rest => do
    let (places, rest) ← digits? Char.isDigit rest
    match rest with
    | c :: _ =>
      if c = 'e' ∨ c = 'E' then
        let (power, rest) ← power? rest
        return ((places, power), rest)
      else return ((places, 0), rest)
    | [] => return ((places, 0), [])
  | cs => do
    let (power, rest) ← power? cs
    return (([], power), rest)

/-- Reads a floating point number with a point or a power of ten. One that is too large for a
finite number is refused, unless it is negative. -/
def decimal? : Reader Binary64 := fun cs => do
  let (negative, rest) := sign cs
  let (whole, rest) ← wholeDigits? rest
  let ((places, power), rest) ← fractionAndPower? rest
  let number : Decimal := ⟨whole ++ places, power - places.length⟩
  match number.toBinary64 negative with
  | .infinite false => none
  | value => return (value, rest)

/-- Reads one of the words for numbers that are not finite. -/
def specialNumber? : Reader Binary64 := fun cs =>
  match sign cs with
  | (negative, 'i' :: 'n' :: 'f' :: rest) => some (.infinite negative, rest)
  | (_, 'n' :: 'a' :: 'n' :: rest) => some (.nan, rest)
  | _ => none

/-- Whether a number fits into 64 bits with a sign. -/
def fits (n : Int) : Bool :=
  -9223372036854775808 ≤ n && n < 9223372036854775808

/-- Reads the digits of a number in a base. -/
def inBase? (base : Nat) (isDigit : Char → Bool) : Reader Int := fun cs => do
  let (ds, rest) ← digits? isDigit cs
  let n ← Text.valueInBase? base ds
  if fits n then some (n, rest) else none

/-- Reads an integer in base ten, or in base 16, 8 or 2 after a mark. -/
def integer? : Reader Int
  | '0' :: 'x' :: rest => inBase? 16 (fun c => (Text.hexDigit? c).isSome) rest
  | '0' :: 'o' :: rest => inBase? 8 (fun c => '0' ≤ c && c ≤ '7') rest
  | '0' :: 'b' :: rest => inBase? 2 (fun c => c = '0' || c = '1') rest
  | cs => do
    let (negative, rest) := sign cs
    let (ds, rest) ← wholeDigits? rest
    let n : Int := Text.digitsValue ds
    let n := if negative then -n else n
    if fits n then some (n, rest) else none

/-! ## Dates and times -/

/-- Takes off one character. -/
def exactly? (c : Char) : List Char → Option (List Char)
  | d :: rest => if d = c then some rest else none
  | [] => none

/-- Reads a date. -/
def date? : Reader Date := fun cs => do
  let (year, rest) ← Text.fixedDigits? 4 cs
  let rest ← exactly? '-' rest
  let (month, rest) ← Text.fixedDigits? 2 rest
  let rest ← exactly? '-' rest
  let (day, rest) ← Text.fixedDigits? 2 rest
  let date ← Date.ofParts? year month day
  return (date, rest)

/-- Reads the digits of a fraction of a second as nanoseconds; digits past nine are left out. -/
def nanoseconds (cs : List Char) : Nat × List Char :=
  match cs with
  | '.' :: rest =>
    let ds := rest.takeWhile Char.isDigit
    if ds = [] then (0, cs)
    else
      let used := ds.take 9
      (Text.digitsValue used * Nat.pow 10 (9 - used.length), rest.dropWhile Char.isDigit)
  | cs => (0, cs)

/-- Reads a time of day. -/
def time? : Reader Time := fun cs => do
  let (hour, rest) ← Text.fixedDigits? 2 cs
  let rest ← exactly? ':' rest
  let (minute, rest) ← Text.fixedDigits? 2 rest
  let rest ← exactly? ':' rest
  let (second, rest) ← Text.fixedDigits? 2 rest
  let time ← TimeOfDay.ofParts? hour minute second
  let (nanoseconds, rest) := nanoseconds rest
  return (⟨time, nanoseconds⟩, rest)

/-- Reads a zone. -/
def zone? : Reader Zone
  | 'Z' :: rest => some (.utc, rest)
  | 'z' :: rest => some (.utc, rest)
  | c :: rest =>
    if c = '+' ∨ c = '-' then do
      let (hours, rest) ← Text.fixedDigits? 2 rest
      let rest ← exactly? ':' rest
      let (minutes, rest) ← Text.fixedDigits? 2 rest
      if hours < 24 ∧ minutes < 60 then
        let total : Int := 60 * hours + minutes
        return (.offset (if c = '-' then -total else total), rest)
      else none
    else none
  | [] => none

/-- Reads a date, a time or both. -/
def moment? : Reader Moment := fun cs =>
  match date? cs with
  | none => (time? cs).map fun (t, rest) => (.time t, rest)
  | some (date, rest) =>
    let time : Option (Time × List Char) :=
      match rest with
      | c :: rest => if c = 'T' ∨ c = 't' ∨ c = ' ' then time? rest else none
      | [] => none
    match time with
    | none => some (.date date, rest)
    | some (time, rest) =>
      match zone? rest with
      | some (zone, rest) => some (.dateTime date time (some zone), rest)
      | none => some (.dateTime date time none, rest)

end SqlDialect.Toml
