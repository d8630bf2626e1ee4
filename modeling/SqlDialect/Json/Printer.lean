import SqlDialect.Json
import SqlDialect.Number.Layout

/-!
# JSON text

Two written forms of a JSON value: the compact one has no blanks, the indented one has a line for
each item and field and two spaces for each level.
-/

namespace SqlDialect

/-- The text of a JSON number. -/
def JsonNumber.chars : JsonNumber → List Char
  | .integer value => Text.signedDigits value
  | .float value => value.text .json

/-- The text of a JSON number. -/
def JsonNumber.text (number : JsonNumber) : String :=
  String.ofList number.chars

namespace Json

/-- Four hexadecimal digits, in lower case. -/
def hexDigits (n : Nat) : List Char :=
  let ds := Nat.toDigits 16 n
  List.replicate (4 - ds.length) '0' ++ ds

/-- A character inside a string. Quotes, backslashes and control characters are escaped, all
others stand for themselves. -/
def escapedChar (c : Char) : List Char :=
  if c = '"' then ['\\', '"']
  else if c = '\\' then ['\\', '\\']
  else if c = '\n' then ['\\', 'n']
  else if c = '\t' then ['\\', 't']
  else if c = '\r' then ['\\', 'r']
  else if c.toNat = 8 then ['\\', 'b']
  else if c.toNat = 12 then ['\\', 'f']
  else if c.toNat < 32 then '\\' :: 'u' :: hexDigits c.toNat
  else [c]

/-- A string in quotes. -/
def quotedText (s : String) : List Char :=
  '"' :: (s.toList.flatMap escapedChar ++ ['"'])

/-! ## Compact form -/

mutual

/-- The value without blanks. -/
def compactChars : Json → List Char
  | .null => "null".toList
  | .bool true => "true".toList
  | .bool false => "false".toList
  | .number value => value.chars
  | .string value => quotedText value
  | .array items => '[' :: (compactItems items ++ [']'])
  | .object fields => '\x7b' :: (compactFields fields ++ ['\x7d'])

/-- The items with commas between them. -/
def compactItems : List Json → List Char
  | [] => []
  | [item] => compactChars item
  | item :: next :: rest => compactChars item ++ ',' :: compactItems (next :: rest)

/-- The fields with commas between them. -/
def compactFields : List (String × Json) → List Char
  | [] => []
  | [(name, value)] => quotedText name ++ ':' :: compactChars value
  | (name, value) :: next :: rest =>
    quotedText name ++ ':' :: (compactChars value ++ ',' :: compactFields (next :: rest))

end

/-- The compact text of a value. -/
def compact (json : Json) : String :=
  String.ofList json.compactChars

/-! ## Indented form -/

/-- A new line at a level of indentation. -/
def newLine (level : Nat) : List Char :=
  '\n' :: List.replicate (2 * level) ' '

mutual

/-- The value with its items and fields on lines of their own, one level further in. -/
def indentedChars (level : Nat) : Json → List Char
  | .null => "null".toList
  | .bool true => "true".toList
  | .bool false => "false".toList
  | .number value => value.chars
  | .string value => quotedText value
  | .array [] => "[]".toList
  | .array (item :: rest) =>
    '[' :: (newLine (level + 1) ++ indentedItems (level + 1) (item :: rest) ++
      newLine level ++ [']'])
  | .object [] => ['\x7b', '\x7d']
  | .object (field :: rest) =>
    '\x7b' :: (newLine (level + 1) ++ indentedFields (level + 1) (field :: rest) ++
      newLine level ++ ['\x7d'])

/-- The items, each on its line. -/
def indentedItems (level : Nat) : List Json → List Char
  | [] => []
  | [item] => indentedChars level item
  | item :: next :: rest =>
    indentedChars level item ++ ',' :: (newLine level ++ indentedItems level (next :: rest))

/-- The fields, each on its line. -/
def indentedFields (level : Nat) : List (String × Json) → List Char
  | [] => []
  | [(name, value)] => quotedText name ++ ':' :: ' ' :: indentedChars level value
  | (name, value) :: next :: rest =>
    quotedText name ++ ':' :: ' ' :: (indentedChars level value ++
      ',' :: (newLine level ++ indentedFields level (next :: rest)))

end

/-- The indented text of a value. -/
def indented (json : Json) : String :=
  String.ofList (json.indentedChars 0)

/-- The indented text of an object whose fields are given in the order in which they are written,
whether or not a name occurs twice. -/
def indentedRecord (fields : List (String × Json)) : String :=
  indented (.object fields)

end Json
end SqlDialect
