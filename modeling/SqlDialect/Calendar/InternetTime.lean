import SqlDialect.Calendar.Time
import SqlDialect.Text.Digits

/-!
# Internet time

The date and time format of the internet standards, RFC 3339: every number has a fixed width, the
date and the time are joined by `T`, `t` or one space, and a zone is required.
-/

namespace SqlDialect.Calendar.InternetTime

/-- Reads one of some characters. -/
def oneOf? (wanted : List Char) : List Char → Option (Char × List Char)
  | [] => none
  | c :: rest => if c ∈ wanted then some (c, rest) else none

/-- Leaves out a fraction of a second; after the point there must be a digit. -/
def skipFraction? : List Char → Option (List Char)
  | '.' :: rest =>
    if rest.takeWhile Char.isDigit = [] then none else some (rest.dropWhile Char.isDigit)
  | cs => some cs

/-- Whether a text is a zone: `Z` or a sign, hours and minutes, less than a day. The sign may also
be the minus sign of typography. -/
def isZone (cs : List Char) : Bool :=
  cs = ['Z'] || cs = ['z'] ||
    ((do
      let (_, rest) ← oneOf? ['+', '-', '\u2212'] cs
      let (hours, rest) ← Text.fixedDigits? 2 rest
      let (_, rest) ← oneOf? [':'] rest
      let (minutes, rest) ← Text.fixedDigits? 2 rest
      if hours < 24 ∧ minutes < 60 ∧ rest = [] then some () else none) : Option Unit).isSome

/-- Reads a date and a time with a zone; the value is the local date and time. -/
def read? (cs : List Char) : Option DateTime := do
  let (year, rest) ← Text.fixedDigits? 4 cs
  let (_, rest) ← oneOf? ['-'] rest
  let (month, rest) ← Text.fixedDigits? 2 rest
  let (_, rest) ← oneOf? ['-'] rest
  let (day, rest) ← Text.fixedDigits? 2 rest
  let (_, rest) ← oneOf? ['T', 't', ' '] rest
  let (hour, rest) ← Text.fixedDigits? 2 rest
  let (_, rest) ← oneOf? [':'] rest
  let (minute, rest) ← Text.fixedDigits? 2 rest
  let (_, rest) ← oneOf? [':'] rest
  let (second, rest) ← Text.fixedDigits? 2 rest
  let rest ← skipFraction? rest
  let date ← Date.ofParts? year month day
  let time ← TimeOfDay.ofParts? hour minute second
  if isZone rest then some ⟨date, time⟩ else none

end SqlDialect.Calendar.InternetTime
