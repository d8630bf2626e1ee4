import SqlDialect.Json
import SqlDialect.Text.Digits

/-!
# Reading JSON text

A reader takes a value off the front of a text and returns it with the rest. Values may be nested
up to a fixed depth, on which the recursion runs; the loops over items, fields and characters run
on a bound computed from the length of the text.

A number with a point, with a power of ten or too long for 64 bits is read in two steps: the
significand, cut to as many digits as fit into 64 bits, and the power of ten are each rounded to a
binary number, and their product or quotient is rounded again.
-/

namespace SqlDialect.Json.Reader

/-- Values nested deeper than this are refused. -/
def depthLimit : Nat := 128

/-- The largest significand. -/
def significandLimit : Nat := Nat.pow 2 64 - 1

/-- Whether a character may stand between the parts of a value. -/
def isSpace (c : Char) : Bool :=
  c = ' ' || c = '\t' || c = '\n' || c = '\r'

/-- The text without the blanks in front. -/
def skipSpace (cs : List Char) : List Char :=
  cs.dropWhile isSpace

/-! ## Numbers -/

/-- The significand of a row of digits, and how many digits were left out at its end because the
significand would not fit into 64 bits. -/
def takeSignificand (significand : Nat) : List Char → Nat × Nat
  | [] => (significand, 0)
  | d :: ds =>
    let next := 10 * significand + (d.toNat - '0'.toNat)
    if next ≤ significandLimit then takeSignificand next ds
    else (significand, ds.length + 1)

/-- `significand · 10 ^ exponent`, both factors rounded and then the result rounded. -/
def scaledNumber? (negative : Bool) (significand : Nat) (exponent : Int) : Option Binary64 :=
  if significand = 0 then some (.zero negative)
  else if 308 < exponent then none
  else if exponent < -700 then some (.zero negative)
  else
    let step (x : Binary64) (power : Int) : Binary64 :=
      match x, Binary64.ofRatio false (Nat.pow 10 power.natAbs) 1 with
      | .finite _ m e _, .finite _ m' e' _ =>
        let (n, d) := Binary64.ratio m e
        let (n', d') := Binary64.ratio m' e'
        if 0 ≤ power then .ofRatio negative (n * n') (d * d')
        else .ofRatio negative (n * d') (d * n')
      | _, _ => .nan
    let first := Binary64.ofRatio negative significand 1
    let result :=
      if exponent < -616 then step (step (step first (-308)) (-308)) (exponent + 616)
      else if exponent < -308 then step (step first (-308)) (exponent + 308)
      else step first exponent
    match result with
    | .finite .. => some result
    | _ => none

/-- Whether a text starts with a power of ten. -/
def power? : List Char → Option (Option Int × List Char)
  | c :: cs =>
    if c = 'e' ∨ c = 'E' then
      let (negative, cs) :=
        match cs with
        | '-' :: cs => (true, cs)
        | '+' :: cs => (false, cs)
        | cs => (false, cs)
      let ds := cs.takeWhile Char.isDigit
      if ds = [] then none
      else
        let power : Int := Text.digitsValue ds
        some (some (if negative then -power else power), cs.dropWhile Char.isDigit)
    else some (none, c :: cs)
  | [] => some (none, [])

/-- Reads a number after its sign. -/
def unsignedNumber? (negative : Bool) (cs : List Char) : Option (JsonNumber × List Char) := do
  let whole := cs.takeWhile Char.isDigit
  let rest := cs.dropWhile Char.isDigit
  match whole with
  | [] => none
  | '0' :: _ :: _ => none
  | _ =>
    let (significand, dropped) := takeSignificand 0 whole
    match rest with
    | '.' :: rest =>
      let fraction := rest.takeWhile Char.isDigit
      if fraction = [] then none
      else
        let (significand, unused) := takeSignificand significand fraction
        let places : Int := (dropped : Int) - (fraction.length - unused : Nat)
        let (power, rest) ← power? (rest.dropWhile Char.isDigit)
        let value ← scaledNumber? negative significand (places + power.getD 0)
        return (.float value, rest)
    | rest =>
      let (power, rest) ← power? rest
      match power with
      | some power =>
        let value ← scaledNumber? negative significand (dropped + power)
        return (.float value, rest)
      | none =>
        if dropped ≠ 0 ∨ (negative ∧ (significand = 0 ∨ Nat.pow 2 63 < significand)) then
          let value ← scaledNumber? negative significand dropped
          return (.float value, rest)
        else
          return (.integer (if negative then -(significand : Int) else significand), rest)

/-! ## Strings -/

/-- Reads the code after `\u`, with a second one when the first is the first half of a pair. -/
def codePoint? (cs : List Char) : Option (Char × List Char) := do
  let (first, rest) ← Text.fixedHexDigits? 4 cs
  if 0xD800 ≤ first ∧ first < 0xDC00 then
    match rest with
    | '\\' :: 'u' :: rest =>
      let (second, rest) ← Text.fixedHexDigits? 4 rest
      if 0xDC00 ≤ second ∧ second < 0xE000 then
        let c ← Text.charOfCode? (0x10000 + (first - 0xD800) * 0x400 + (second - 0xDC00))
        return (c, rest)
      else none
    | _ => none
  else
    let c ← Text.charOfCode? first
    return (c, rest)

/-- Reads the characters up to the closing quote. -/
def stringTail? : Nat → List Char → Option (List Char × List Char)
  | 0, _ => none
  | _, [] => none
  | _, '"' :: rest => some ([], rest)
  | bound + 1, '\\' :: e :: rest =>
    let single (c : Char) : Option (List Char × List Char) :=
      (stringTail? bound rest).map fun (tail, rest) => (c :: tail, rest)
    match e with
    | '"' => single '"'
    | '\\' => single '\\'
    | '/' => single '/'
    | 'b' => single '\x08'
    | 'f' => single '\x0c'
    | 'n' => single '\n'
    | 'r' => single '\r'
    | 't' => single '\t'
    | 'u' => do
      let (c, rest) ← codePoint? rest
      let (tail, rest) ← stringTail? bound rest
      return (c :: tail, rest)
    | _ => none
  | bound + 1, c :: rest =>
    if c.toNat < 32 ∨ c = '\\' then none
    else (stringTail? bound rest).map fun (tail, rest) => (c :: tail, rest)

/-- Reads a string in quotes. -/
def string? : List Char → Option (String × List Char)
  | '"' :: rest =>
    (stringTail? (rest.length + 1) rest).map fun (cs, rest) => (String.ofList cs, rest)
  | _ => none

/-! ## Values -/

/-- Reads items up to the closing bracket, the first one without a comma before it. -/
def itemsTail? (item : List Char → Option (Json × List Char)) :
    Nat → Bool → List Char → Option (List Json × List Char)
  | 0, _, _ => none
  | bound + 1, first, cs =>
    match skipSpace cs with
    | ']' :: rest => some ([], rest)
    | cs => do
      let cs ← if first then some cs else
        match cs with
        | ',' :: rest => some (skipSpace rest)
        | _ => none
      let (value, rest) ← item cs
      let (values, rest) ← itemsTail? item bound false rest
      return (value :: values, rest)

/-- Reads fields up to the closing brace, the first one without a comma before it. -/
def fieldsTail? (item : List Char → Option (Json × List Char)) :
    Nat → Bool → List Char → Option (List (String × Json) × List Char)
  | 0, _, _ => none
  | bound + 1, first, cs =>
    match skipSpace cs with
    | '\x7d' :: rest => some ([], rest)
    | cs => do
      let cs ← if first then some cs else
        match cs with
        | ',' :: rest => some (skipSpace rest)
        | _ => none
      let (name, rest) ← string? cs
      match skipSpace rest with
      | ':' :: rest =>
        let (value, rest) ← item (skipSpace rest)
        let (fields, rest) ← fieldsTail? item bound false rest
        return ((name, value) :: fields, rest)
      | _ => none

/-- Reads a value nested at most `depth` deep. -/
def value? : Nat → List Char → Option (Json × List Char)
  | 0, _ => none
  | depth + 1, cs =>
    match cs with
    | 'n' :: 'u' :: 'l' :: 'l' :: rest => some (.null, rest)
    | 't' :: 'r' :: 'u' :: 'e' :: rest => some (.bool true, rest)
    | 'f' :: 'a' :: 'l' :: 's' :: 'e' :: rest => some (.bool false, rest)
    | '"' :: _ => (string? cs).map fun (s, rest) => (.string s, rest)
    | '[' :: rest =>
      (itemsTail? (fun cs => value? depth cs) (rest.length + 1) true rest).map
        fun (items, rest) => (.array items, rest)
    | '\x7b' :: rest =>
      (fieldsTail? (fun cs => value? depth cs) (rest.length + 1) true rest).map
        fun (fields, rest) => (ofFields fields, rest)
    | '-' :: rest => (unsignedNumber? true rest).map fun (n, rest) => (.number n, rest)
    | cs => (unsignedNumber? false cs).map fun (n, rest) => (.number n, rest)

end Reader

/-- Reads a text that holds one value and blanks around it. -/
def ofText (s : String) : Option Json := do
  let (value, rest) ← Reader.value? (Reader.depthLimit + 1) (Reader.skipSpace s.toList)
  if Reader.skipSpace rest = [] then some value else none

end SqlDialect.Json
