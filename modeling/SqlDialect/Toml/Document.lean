import SqlDialect.Toml.Numbers
import SqlDialect.Toml.Tree

/-!
# TOML documents

Reading a whole document, as version 1.0 of the format has it. Arrays and tables in braces may be
nested up to a fixed depth, on which the recursion runs.
-/

namespace SqlDialect.Toml

/-! ## Values -/

/-- Reads the items of an array, after its bracket. Blanks, ends of lines and comments may stand
anywhere between them, and a comma after the last. -/
def itemsTail? (item : Reader Value) : Nat → Reader (List Value)
  | 0, _ => none
  | bound + 1, cs =>
    match skipLines (cs.length + 1) cs with
    | ']' :: rest => some ([], rest)
    | cs => do
      let (value, rest) ← item cs
      match skipLines (rest.length + 1) rest with
      | ',' :: rest =>
        let (values, rest) ← itemsTail? item bound rest
        return (value :: values, rest)
      | ']' :: rest => return ([value], rest)
      | _ => none

/-- Reads a key, the sign for equality and a value. -/
def pair? (item : Reader Value) : Reader ((List String × String) × Value) := fun cs => do
  let (key, rest) ← key? cs
  let rest ← exactly? '=' rest
  let (value, rest) ← item (skipBlanks rest)
  return ((key, value), rest)

/-- Reads the pairs of a table in braces, all on one line. -/
def pairsTail? (item : Reader Value) : Nat → Reader (List ((List String × String) × Value))
  | 0, _ => none
  | bound + 1, cs => do
    let (pair, rest) ← pair? item cs
    match skipBlanks rest with
    | ',' :: rest =>
      let (pairs, rest) ← pairsTail? item bound rest
      return (pair :: pairs, rest)
    | '\x7d' :: rest => return ([pair], rest)
    | _ => none

/-- Reads a table in braces, after the first brace. -/
def tableTail? (item : Reader Value) : Reader Value := fun cs =>
  match skipBlanks cs with
  | '\x7d' :: rest => some (.table [], rest)
  | cs => do
    let (pairs, rest) ← pairsTail? item (cs.length + 1) cs
    let fields ← Fields.ofPairs pairs
    return (.table (fieldsToValues fields), rest)

/-- Reads a number, a date or a time. -/
def numeric? : Reader Value := fun cs =>
  match moment? cs with
  | some (m, rest) => some (.moment m, rest)
  | none =>
    match decimal? cs with
    | some (x, rest) => some (.float x, rest)
    | none =>
      match specialNumber? cs with
      | some (x, rest) => some (.float x, rest)
      | none => (integer? cs).map fun (n, rest) => (.integer n, rest)

/-- Reads a value that is neither an array nor a table. -/
def scalarValue? : Reader Value := fun cs =>
  match cs with
  | 't' :: 'r' :: 'u' :: 'e' :: rest => some (.boolean true, rest)
  | 'f' :: 'a' :: 'l' :: 's' :: 'e' :: rest => some (.boolean false, rest)
  | '"' :: _ => (string? cs).map fun (s, rest) => (.string s, rest)
  | '\'' :: _ => (string? cs).map fun (s, rest) => (.string s, rest)
  | cs => numeric? cs

/-- Reads a value in which arrays and tables are nested at most `depth` deep. -/
def value? : Nat → Reader Value
  | 0, cs => scalarValue? cs
  | depth + 1, cs =>
    match cs with
    | '[' :: rest =>
      (itemsTail? (fun cs => value? depth cs) (rest.length + 1) rest).map
        fun (items, rest) => (.array items, rest)
    | '\x7b' :: rest => tableTail? (fun cs => value? depth cs) rest
    | cs => scalarValue? cs

/-- The greatest depth of nested arrays and tables. -/
def depthLimit : Nat := 79

/-! ## Lines -/

/-- What has been read of a document. -/
structure Document where
  /-- The tables so far. -/
  root : Fields := []
  /-- The path of the table that was opened last. -/
  path : List String := []

/-- Adds a value to the table that was opened last. -/
def Document.set (document : Document) (key : List String × String) (value : Value) :
    Option Document := do
  let root ← document.root.change document.path fun fields =>
    fields.set key.1 key.2 value false false
  return { document with root }

/-- Opens the table of a header. -/
def Document.openTable (document : Document) (key : List String × String) : Option Document := do
  let root ← document.root.change key.1 (Fields.openTable key.2)
  return { root, path := key.1 ++ [key.2] }

/-- Adds a table to the list of a header in double brackets. -/
def Document.openElement (document : Document) (key : List String × String) : Option Document := do
  let root ← document.root.change key.1 (Fields.openElement key.2)
  return { root, path := key.1 ++ [key.2] }

/-- Reads a line that is not empty, up to its comment. -/
def Document.line? (document : Document) : Reader Document := fun cs =>
  match cs with
  | '[' :: '[' :: rest => do
    let (key, rest) ← key? rest
    let rest ← exactly? ']' rest
    let rest ← exactly? ']' rest
    let document ← document.openElement key
    return (document, rest)
  | '[' :: rest => do
    let (key, rest) ← key? rest
    let rest ← exactly? ']' rest
    let document ← document.openTable key
    return (document, rest)
  | cs => do
    let ((key, value), rest) ← pair? (value? depthLimit) cs
    let document ← document.set key value
    return (document, rest)

/-- Reads the lines of a document to its end. -/
def Document.lines? (document : Document) : Nat → List Char → Option Document
  | 0, _ => none
  | bound + 1, cs =>
    match skipLines (cs.length + 1) cs with
    | [] => some document
    | cs => do
      let (document, rest) ← document.line? cs
      let rest ← endLine? rest
      document.lines? bound rest

/-- The text without the mark of its encoding in front. -/
def skipByteOrderMark : List Char → List Char
  | '\ufeff' :: rest => rest
  | cs => cs

/-- Reads a document; its fields are those of its outermost table. -/
def ofText? (text : String) : Option (List (String × Value)) := do
  let cs := skipByteOrderMark text.toList
  let document ← Document.lines? {} (cs.length + 1) cs
  return fieldsToValues document.root

end SqlDialect.Toml
