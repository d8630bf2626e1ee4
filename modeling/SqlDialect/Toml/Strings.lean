import SqlDialect.Text.Digits

/-!
# TOML blanks, comments, strings and keys

Readers for the smallest parts of a document. Each takes its part off the front of a text and
returns it with the rest. The loops run on a bound that the length of the text exceeds nowhere.
-/

namespace SqlDialect.Toml

/-- A reader takes a value off the front of a text and returns it with the rest. -/
abbrev Reader (α : Type) := List Char → Option (α × List Char)

/-! ## Blanks and comments -/

/-- A blank inside a line. -/
def isBlank (c : Char) : Bool :=
  c = ' ' || c = '\t'

/-- A character outside ASCII. -/
def isWide (c : Char) : Bool :=
  128 ≤ c.toNat

/-- A character that may stand in a comment. -/
def isCommentChar (c : Char) : Bool :=
  c = '\t' || (32 ≤ c.toNat && c.toNat ≤ 126) || isWide c

/-- The text without the blanks in front. -/
def skipBlanks (cs : List Char) : List Char :=
  cs.dropWhile isBlank

/-- Takes off the end of a line. -/
def newLine? : List Char → Option (List Char)
  | '\n' :: rest => some rest
  | '\r' :: '\n' :: rest => some rest
  | _ => none

/-- Takes off a comment, up to the end of its line. -/
def skipComment : List Char → List Char
  | '#' :: rest => rest.dropWhile isCommentChar
  | cs => cs

/-- Takes off blanks, a comment and the end of a line; the text may end instead of the line. -/
def endLine? (cs : List Char) : Option (List Char) :=
  match skipComment (skipBlanks cs) with
  | [] => some []
  | cs => newLine? cs

/-- The text without blanks, ends of lines and comments in front. -/
def skipLines : Nat → List Char → List Char
  | 0, cs => cs
  | bound + 1, cs =>
    match skipBlanks cs with
    | '#' :: rest => skipLines bound (rest.dropWhile isCommentChar)
    | cs =>
      match newLine? cs with
      | some rest => skipLines bound rest
      | none => cs

/-- The text without blanks and ends of lines in front. -/
def skipBlankLines : Nat → List Char → List Char
  | 0, cs => cs
  | bound + 1, cs =>
    match newLine? (skipBlanks cs) with
    | some rest => skipBlankLines bound rest
    | none => skipBlanks cs

/-! ## Strings -/

/-- Reads the character of a code of `width` hexadecimal digits. -/
def scalar? (width : Nat) : Reader Char := fun cs => do
  let (n, rest) ← Text.fixedHexDigits? width cs
  let c ← Text.charOfCode? n
  return (c, rest)

/-- Reads what stands for one character after a backslash. -/
def escaped? : Reader Char
  | 'b' :: rest => some ('\x08', rest)
  | 't' :: rest => some ('\t', rest)
  | 'n' :: rest => some ('\n', rest)
  | 'f' :: rest => some ('\x0c', rest)
  | 'r' :: rest => some ('\r', rest)
  | '"' :: rest => some ('"', rest)
  | '\\' :: rest => some ('\\', rest)
  | 'u' :: rest => scalar? 4 rest
  | 'U' :: rest => scalar? 8 rest
  | _ => none

/-- A character that stands for itself in a string in double quotes. -/
def isBasicChar (c : Char) : Bool :=
  isCommentChar c && c ≠ '"' && c ≠ '\\'

/-- A character that may stand in a string in single quotes. -/
def isLiteralChar (c : Char) : Bool :=
  isCommentChar c && c ≠ '\''

/-- Puts a character in front of what a reader yields. -/
def consTo (c : Char) (tail : Option (List Char × List Char)) : Option (List Char × List Char) :=
  tail.map fun (cs, rest) => (c :: cs, rest)

/-- Reads a string on one line in double quotes, after the first quote. -/
def basicTail? : Nat → Reader (List Char)
  | 0, _ => none
  | _, [] => none
  | _, '"' :: rest => some ([], rest)
  | bound + 1, '\\' :: rest => do
    let (c, rest) ← escaped? rest
    consTo c (basicTail? bound rest)
  | bound + 1, c :: rest => if isBasicChar c then consTo c (basicTail? bound rest) else none

/-- Reads a string on one line in single quotes, after the first quote. -/
def literalTail? (cs : List Char) : Option (List Char × List Char) :=
  match cs.dropWhile isLiteralChar with
  | '\'' :: rest => some (cs.takeWhile isLiteralChar, rest)
  | _ => none

/-- Reads a run of quotes inside a string of several lines: fewer than three are part of the
string, three end it, and up to two more before these are part of it. The flag tells whether the
string has ended. -/
def quoteRun (quote : Char) (cs : List Char) : List Char × Bool × List Char :=
  let run := cs.takeWhile (· = quote)
  if run.length < 3 then (run, false, cs.drop run.length)
  else
    let inside := min (run.length - 3) 2
    (run.take inside, true, cs.drop (inside + 3))

/-- Reads a string of several lines in double quotes, after the first quotes. A backslash at the
end of a line joins it with what follows the blanks and empty lines after it. -/
def basicLines? : Nat → Reader (List Char)
  | 0, _ => none
  | _, [] => none
  | bound + 1, '"' :: rest =>
    match quoteRun '"' ('"' :: rest) with
    | (inside, true, rest) => some (inside, rest)
    | (inside, false, rest) => (basicLines? bound rest).map fun (cs, rest) => (inside ++ cs, rest)
  | bound + 1, '\\' :: rest =>
    match newLine? (skipBlanks rest) with
    | some next => basicLines? bound (skipBlankLines next.length next)
    | none => do
      let (c, rest) ← escaped? rest
      consTo c (basicLines? bound rest)
  | bound + 1, c :: rest =>
    match newLine? (c :: rest) with
    | some next => consTo '\n' (basicLines? bound next)
    | none => if isBasicChar c then consTo c (basicLines? bound rest) else none

/-- Reads a string of several lines in single quotes, after the first quotes. -/
def literalLines? : Nat → Reader (List Char)
  | 0, _ => none
  | _, [] => none
  | bound + 1, '\'' :: rest =>
    match quoteRun '\'' ('\'' :: rest) with
    | (inside, true, rest) => some (inside, rest)
    | (inside, false, rest) =>
      (literalLines? bound rest).map fun (cs, rest) => (inside ++ cs, rest)
  | bound + 1, c :: rest =>
    match newLine? (c :: rest) with
    | some next => consTo '\n' (literalLines? bound next)
    | none => if isLiteralChar c then consTo c (literalLines? bound rest) else none

/-- The text without the end of a line in front. -/
def skipNewLine (cs : List Char) : List Char :=
  (newLine? cs).getD cs

/-- Reads a string of any of the four kinds. -/
def string? : Reader String := fun cs =>
  let chars? : Option (List Char × List Char) :=
    match cs with
    | '"' :: '"' :: '"' :: rest => basicLines? (rest.length + 1) (skipNewLine rest)
    | '\'' :: '\'' :: '\'' :: rest => literalLines? (rest.length + 1) (skipNewLine rest)
    | '"' :: rest => basicTail? (rest.length + 1) rest
    | '\'' :: rest => literalTail? rest
    | _ => none
  chars?.map fun (cs, rest) => (String.ofList cs, rest)

/-! ## Keys -/

/-- A character of a key without quotes. -/
def isBareChar (c : Char) : Bool :=
  c.isAlphanum || c = '-' || c = '_'

/-- Reads one part of a key: a string on one line, or a bare word. -/
def keyPart? : Reader String := fun cs =>
  match cs with
  | '"' :: rest => (basicTail? (rest.length + 1) rest).map fun (cs, rest) => (String.ofList cs, rest)
  | '\'' :: rest => (literalTail? rest).map fun (cs, rest) => (String.ofList cs, rest)
  | cs =>
    let word := cs.takeWhile isBareChar
    if word = [] then none else some (String.ofList word, cs.dropWhile isBareChar)

/-- Reads the parts of a key with points between them and blanks around them. -/
def keyParts? : Nat → Reader (List String)
  | 0, _ => none
  | bound + 1, cs => do
    let (part, rest) ← keyPart? (skipBlanks cs)
    match skipBlanks rest with
    | '.' :: rest =>
      let (parts, rest) ← keyParts? bound rest
      return (part :: parts, rest)
    | rest => return ([part], rest)

/-- A key has fewer parts than this. -/
def keyPartLimit : Nat := 80

/-- Reads a key: the parts that lead to it, and its last part. -/
def key? : Reader (List String × String) := fun cs => do
  let (parts, rest) ← keyParts? (cs.length + 1) cs
  let last ← parts.getLast?
  if parts.length < keyPartLimit then some ((parts.dropLast, last), rest) else none

end SqlDialect.Toml
