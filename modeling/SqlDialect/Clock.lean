import SqlDialect.Calendar.Layout
import SqlDialect.Text.Pieces

/-!
# The clock of the engine

The engine reports its time as a date, a time and a zone with a space before the zone. The zone is
`UTC`, `GMT`, `Z`, or a sign with hours and perhaps minutes; colons between the digits do not count.
Other abbreviations are ambiguous and refused. `ClockReading.text` is the normal form of a reading.
-/

namespace SqlDialect

open Calendar

/-- The offset of a zone from universal time, in whole minutes and less than a day. -/
structure ZoneOffset where
  /-- The minutes, positive to the east. -/
  minutes : Int
  /-- The offset is less than a day. -/
  inDay : -1440 < minutes ∧ minutes < 1440
deriving DecidableEq

/-- Why a clock text is refused. -/
inductive ClockError where
  /-- There is no zone after the date and time. -/
  | noZone (text : String)
  /-- The part before the zone is no date and time. -/
  | badStamp (stamp : String) (reason : ReadError)
  /-- The zone is none of those that are understood. -/
  | badZone (zone : String)
  /-- In universal time, the point in time is out of range. -/
  | outOfRange (text : String)
deriving DecidableEq

/-- The description of an error. -/
def ClockError.message : ClockError → String
  | .noZone text => "Unparseable timestamp: " ++ text
  | .badStamp stamp reason => "Unparseable timestamp: " ++ stamp ++ ": " ++ reason.message
  | .badZone zone => "Unsupported time zone: " ++ zone
  | .outOfRange text => "Unparseable timestamp: " ++ text

/-- A local date and time and the offset of its zone. -/
structure ClockReading where
  /-- The local date and time. -/
  stamp : DateTime
  /-- The offset of the zone. -/
  offset : ZoneOffset
deriving DecidableEq

namespace ZoneOffset

/-- The offset with this number of minutes, if it is less than a day. -/
def ofMinutes? (minutes : Int) : Option ZoneOffset :=
  if h : -1440 < minutes ∧ minutes < 1440 then some ⟨minutes, h⟩ else none

/-- No offset. -/
def utc : ZoneOffset := ⟨0, by decide⟩

/-- The offset in seconds. -/
def seconds (offset : ZoneOffset) : Int :=
  60 * offset.minutes

/-- The minutes of two digits, for hours, or four, for hours and minutes. -/
def minutesOfDigits? : List Char → Option Nat
  | [a, b] => some (60 * Text.digitsValue [a, b])
  | [a, b, c, d] =>
    let minutes := Text.digitsValue [c, d]
    if minutes < 60 then some (60 * Text.digitsValue [a, b] + minutes) else none
  | _ => none

/-- Reads the digits after the sign of a zone; colons do not count. -/
def ofSigned? (negative : Bool) (cs : List Char) : Option ZoneOffset :=
  let ds := cs.filter (· ≠ ':')
  if ds.all Char.isDigit then
    match minutesOfDigits? ds with
    | some minutes => ofMinutes? (if negative then -(minutes : Int) else minutes)
    | none => none
  else none

/-- Reads a zone. -/
def read? (cs : List Char) : Option ZoneOffset :=
  if cs = "UTC".toList ∨ cs = "GMT".toList ∨ cs = "Z".toList then some utc
  else
    match cs with
    | '+' :: cs => ofSigned? false cs
    | '-' :: cs => ofSigned? true cs
    | _ => none

end ZoneOffset

namespace ClockReading

/-- The layout of the date and time before the zone. -/
def stampLayout : List Item :=
  dateLayout ++ [.blanks] ++ secondLayout

/-- The seconds since the first moment of 1970 in universal time. -/
def epochSecond (reading : ClockReading) : Int :=
  reading.stamp.epochSecond - reading.offset.seconds

/-- The nanoseconds past that second: a whole second more in a leap second. -/
def subsecond (reading : ClockReading) : Nat :=
  if reading.stamp.time.isLeapSecond then 1000000000 else 0

/-- The first second of the dates that can be read. -/
def leastSecond : Int :=
  86400 * (Date.daysBeforeYear leastYear - Date.epochDay)

/-- The last second of the dates that can be read. -/
def greatestSecond : Int :=
  86400 * (Date.daysBeforeYear (greatestYear + 1) - Date.epochDay) - 1

/-- Reads the text of the clock. The date and time are examined before the zone. -/
def read? (text : String) : Except ClockError ClockReading :=
  let trimmed := Text.trim text.toList
  match Text.cutAtLast? ' ' trimmed with
  | none => .error (.noZone (String.ofList trimmed))
  | some (before, zone) =>
    match Calendar.read stampLayout before with
    | .error reason => .error (.badStamp (String.ofList before) reason)
    | .ok stamp =>
      match ZoneOffset.read? zone with
      | none => .error (.badZone (String.ofList zone))
      | some offset =>
        let reading : ClockReading := ⟨stamp, offset⟩
        if leastSecond ≤ reading.epochSecond ∧ reading.epochSecond ≤ greatestSecond then
          .ok reading
        else .error (.outOfRange (String.ofList trimmed))

/-! ## Normal form -/

/-- A year with at least four digits, after a minus sign when it is negative and a plus sign when it
has more than four. -/
def yearText (year : Int) : List Char :=
  if year < 0 then '-' :: Text.padded 4 year.natAbs
  else if 9999 < year then '+' :: Text.digits year.natAbs
  else Text.padded 4 year.natAbs

/-- The sign, hours and minutes of an offset. -/
def offsetText (offset : ZoneOffset) : List Char :=
  let minutes := offset.minutes.natAbs
  (if offset.minutes < 0 then '-' else '+') ::
    (Text.padded 2 (minutes / 60) ++ Text.padded 2 (minutes % 60))

/-- `YYYY-MM-DD HH:MM:SS +HHMM`. -/
def chars (reading : ClockReading) : List Char :=
  let date := reading.stamp.date
  let time := reading.stamp.time
  yearText date.year ++ '-' :: Text.padded 2 date.month ++ '-' :: Text.padded 2 date.day ++
    ' ' :: Text.padded 2 time.hour ++ ':' :: Text.padded 2 time.minute ++
    ':' :: Text.padded 2 time.second ++ ' ' :: offsetText reading.offset

/-- The normal form of a reading. -/
def text (reading : ClockReading) : String :=
  String.ofList reading.chars

end ClockReading
end SqlDialect
