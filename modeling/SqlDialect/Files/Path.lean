import SqlDialect.Text.Pieces

/-!
# Paths

Paths as texts: steps with slashes between them. Joining and cutting work on the text alone and
look at no file.
-/

namespace SqlDialect.Path

/-- A path below a directory. A path that starts at the root stays as it is. -/
def join (directory path : String) : String :=
  if path.toList.head? = some '/' then path
  else if directory = "" ∨ directory.toList.getLast? = some '/' then directory ++ path
  else directory ++ "/" ++ path

/-- Whether a step leads nowhere. -/
def isIdle (step : List Char) : Bool :=
  step = [] || step = ['.']

/-- The steps, from the last one back, without idle ones at the end. -/
def dropIdle (steps : List (List Char)) : List (List Char) :=
  steps.dropWhile isIdle

/-- The mark in front of the steps: a slash of the root, or a point for the current directory. -/
def splitAnchor : List Char → List Char × List Char
  | '/' :: rest => (['/'], rest)
  | ['.'] => (['.'], [])
  | '.' :: '/' :: rest => (['.'], '/' :: rest)
  | cs => ([], cs)

/-- The directory that a path lies in: the path without its last step, or nothing when there is no
step to leave out. -/
def parent? (path : String) : Option String :=
  let (anchor, rest) := splitAnchor path.toList
  match dropIdle (Text.pieces '/' rest).reverse with
  | [] => if anchor = ['.'] then some "" else none
  | _ :: before =>
    some (String.ofList (anchor ++ Text.joined ['/'] (dropIdle before).reverse))

end SqlDialect.Path
