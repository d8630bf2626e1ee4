import SqlDialect.Calendar.Time
import SqlDialect.Text.Blank
import SqlDialect.Text.Digits

/-!
# Reading dates and times by a layout

A layout is a list of items: numbers, exact characters, blanks and fractions of a second. Reading
is lenient in the spelling of numbers (they may have blanks in front and fewer digits than usual)
and strict in all else. The first item that does not fit decides the error. The whole text must be
used up, and the fields must form a date and a time.
-/

namespace SqlDialect.Calendar

/-- Why a text does not fit a layout. -/
inductive ReadError where
  /-- A number is too large or too small for its place, or the day does not exist. -/
  | outOfRange
  /-- Another character was wanted. -/
  | invalidCharacter
  /-- The text ends too early. -/
  | unexpectedEnd
  /-- There is text after the last item. -/
  | trailingText
deriving DecidableEq, Repr

/-- The description of an error. -/
def ReadError.message : ReadError → String
  | .outOfRange => "input is out of range"
  | .invalidCharacter => "input contains invalid characters"
  | .unexpectedEnd => "premature end of input"
  | .trailingText => "trailing input"

/-- A numbered part of a date or time. -/
inductive Field where
  | year
  | month
  | day
  | hour
  | minute
  | second
deriving DecidableEq, Repr

/-- An item of a layout. -/
inductive Item where
  /-- A number, after any blanks. -/
  | number (field : Field)
  /-- Exactly this character. -/
  | exactly (c : Char)
  /-- Any number of blanks, also none. -/
  | blanks
  /-- A point and one or more digits, or nothing. -/
  | fraction
deriving DecidableEq, Repr

/-- The fields read so far; those of a layout without them keep their first value. -/
structure Fields where
  /-- The year. -/
  year : Int := 0
  /-- The month. -/
  month : Nat := 1
  /-- The day of the month. -/
  day : Nat := 1
  /-- The hour. -/
  hour : Nat := 0
  /-- The minute. -/
  minute : Nat := 0
  /-- The second. -/
  second : Nat := 0
deriving DecidableEq

/-! ## Numbers -/

/-- Reads one or more digits, at most `width` of them if there is a width. -/
def readDigits (width : Option Nat) (cs : List Char) : Except ReadError (Nat × List Char) :=
  match cs with
  | [] => .error .unexpectedEnd
  | c :: _ =>
    if c.isDigit then
      let ds := ((cs.take (width.getD cs.length)).takeWhile Char.isDigit)
      .ok (Text.digitsValue ds, cs.drop ds.length)
    else .error .invalidCharacter

/-- A year has at most four digits, or any number of them after a sign. -/
def readYear (cs : List Char) : Except ReadError (Int × List Char) :=
  match cs with
  | '-' :: cs => (readDigits none cs).map fun (n, rest) => (-(n : Int), rest)
  | '+' :: cs => (readDigits none cs).map fun (n, rest) => ((n : Int), rest)
  | cs => (readDigits (some 4) cs).map fun (n, rest) => ((n : Int), rest)

/-- Puts a number into its field, if it is in the range of that field. Years are first held in
32 bits. -/
def Fields.set (fields : Fields) : Field → Int → Except ReadError Fields
  | .year, n =>
    if -2147483648 ≤ n ∧ n < 2147483648 then .ok { fields with year := n }
    else .error .outOfRange
  | .month, n => if 1 ≤ n ∧ n ≤ 12 then .ok { fields with month := n.toNat } else .error .outOfRange
  | .day, n => if 1 ≤ n ∧ n ≤ 31 then .ok { fields with day := n.toNat } else .error .outOfRange
  | .hour, n => if 0 ≤ n ∧ n ≤ 23 then .ok { fields with hour := n.toNat } else .error .outOfRange
  | .minute, n =>
    if 0 ≤ n ∧ n ≤ 59 then .ok { fields with minute := n.toNat } else .error .outOfRange
  | .second, n =>
    if 0 ≤ n ∧ n ≤ 60 then .ok { fields with second := n.toNat } else .error .outOfRange

/-- Reads the number of a field. -/
def readField (field : Field) (cs : List Char) : Except ReadError (Int × List Char) :=
  let cs := Text.trimStart cs
  if field = .year then readYear cs
  else (readDigits (some 2) cs).map fun (n, rest) => ((n : Int), rest)

/-! ## Layouts -/

/-- Reads one item. -/
def Item.read (fields : Fields) (cs : List Char) : Item → Except ReadError (Fields × List Char)
  | .number field => do
    let (n, rest) ← readField field cs
    let fields ← fields.set field n
    return (fields, rest)
  | .exactly c =>
    match cs with
    | [] => .error .unexpectedEnd
    | d :: rest => if d = c then .ok (fields, rest) else .error .invalidCharacter
  | .blanks => .ok (fields, Text.trimStart cs)
  | .fraction =>
    match cs with
    | '.' :: rest => do
      let (_, rest) ← readDigits none rest
      return (fields, rest)
    | cs => .ok (fields, cs)

/-- Reads the items of a layout one after the other, to the end of the text. -/
def readItems (fields : Fields) : List Item → List Char → Except ReadError Fields
  | [], [] => .ok fields
  | [], _ :: _ => .error .trailingText
  | item :: items, cs => do
    let (fields, rest) ← item.read fields cs
    readItems fields items rest

/-- The first and the last year of the dates that can be read. -/
def leastYear : Int := -262143

/-- The last year of the dates that can be read. -/
def greatestYear : Int := 262142

/-- The date of the fields. -/
def Fields.date (fields : Fields) : Except ReadError Date :=
  if leastYear ≤ fields.year ∧ fields.year ≤ greatestYear then
    match Date.ofParts? fields.year fields.month fields.day with
    | some date => .ok date
    | none => .error .outOfRange
  else .error .outOfRange

/-- The time of the fields. -/
def Fields.time (fields : Fields) : Except ReadError TimeOfDay :=
  match TimeOfDay.ofParts? fields.hour fields.minute fields.second with
  | some time => .ok time
  | none => .error .outOfRange

/-- Reads a text by a layout. -/
def read (layout : List Item) (cs : List Char) : Except ReadError DateTime := do
  let fields ← readItems {} layout cs
  let date ← fields.date
  let time ← fields.time
  return ⟨date, time⟩

/-- `YYYY-MM-DD`. -/
def dateLayout : List Item :=
  [.number .year, .exactly '-', .number .month, .exactly '-', .number .day]

/-- `HH:MM`. -/
def minuteLayout : List Item :=
  [.number .hour, .exactly ':', .number .minute]

/-- `HH:MM:SS`. -/
def secondLayout : List Item :=
  minuteLayout ++ [.exactly ':', .number .second]

end SqlDialect.Calendar
