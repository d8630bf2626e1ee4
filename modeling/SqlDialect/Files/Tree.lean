import SqlDialect.Files.Path

/-!
# Files and directories

The part of a file system that a program can see: files with their contents and directories below
the current one. Looking up a path fails for the reasons for which a system refuses to open it.
-/

namespace SqlDialect

/-- Why a file cannot be read. -/
inductive ReadFailure where
  /-- There is nothing at the path. -/
  | notFound
  /-- A step of the path leads through something that is no directory. -/
  | notADirectory
  /-- There is a directory at the path. -/
  | isADirectory
  /-- A step of the path is too long. -/
  | nameTooLong
  /-- The path holds a character that no path may hold. -/
  | badPath
  /-- The contents are no text. -/
  | notText
  /-- The file may not be read. -/
  | permissionDenied
deriving DecidableEq, Repr

/-- The description of a failure. -/
def ReadFailure.message : ReadFailure → String
  | .notFound => "No such file or directory (os error 2)"
  | .notADirectory => "Not a directory (os error 20)"
  | .isADirectory => "Is a directory (os error 21)"
  | .nameTooLong => "File name too long (os error 36)"
  | .badPath => "file name contained an unexpected NUL byte"
  | .notText => "stream did not contain valid UTF-8"
  | .permissionDenied => "Permission denied (os error 13)"

/-- Files and directories below the current directory, by their steps from there. -/
structure FileTree where
  /-- The files and their contents. -/
  files : List (List String × ByteArray) := []
  /-- The directories that are there for themselves; those that hold something are there too. -/
  directories : List (List String) := []

namespace FileTree

/-- What can be found at a path. -/
inductive Entry where
  | file (contents : ByteArray)
  | directory

/-- The steps of a path that was written down, without idle ones. -/
def stepsOf (path : String) : List String :=
  ((Text.pieces '/' path.toList).filter fun step => !Path.isIdle step).map String.ofList

/-- The tree of files and directories given by their paths. -/
def ofPaths (files : List (String × ByteArray)) (directories : List String) : FileTree where
  files := files.map fun (path, contents) => (stepsOf path, contents)
  directories := directories.map stepsOf

/-- Whether there is a directory at the place that these steps lead to. -/
def hasDirectory (tree : FileTree) (steps : List String) : Bool :=
  steps = [] || tree.directories.any (fun d => steps.isPrefixOf d) ||
    tree.files.any fun (f, _) => steps.isPrefixOf f && steps ≠ f

/-- What is at the place that these steps lead to. -/
def itemAt? (tree : FileTree) (steps : List String) : Option Entry :=
  match tree.files.find? fun (f, _) => f = steps with
  | some (_, contents) => some (.file contents)
  | none => if tree.hasDirectory steps then some .directory else none

/-- Whether a step is longer than the name of a file may be. -/
def isTooLong (step : List Char) : Bool :=
  255 < (String.ofList step).utf8ByteSize

/-- Follows steps outside the tree. Of what lies there only the directories on the way to the root
are known, and they have no names. -/
def walkOutside : List (List Char) → Except ReadFailure Entry
  | [] => .ok .directory
  | step :: steps =>
    if Path.isIdle step || step = ['.', '.'] then walkOutside steps
    else if isTooLong step then .error .nameTooLong
    else .error .notFound

/-- Follows the steps of a path from a place on. An idle step and a step upwards need a directory
to start from, as any other step does. -/
def walk (tree : FileTree) (place : List String) (entry : Entry) :
    List (List Char) → Except ReadFailure Entry
  | [] => .ok entry
  | step :: steps =>
    match entry with
    | .file _ => .error .notADirectory
    | .directory =>
      if Path.isIdle step then walk tree place .directory steps
      else if step = ['.', '.'] then
        if place = [] then walkOutside steps else walk tree place.dropLast .directory steps
      else if isTooLong step then .error .nameTooLong
      else
        let next := place ++ [String.ofList step]
        match tree.itemAt? next with
        | some found => walk tree next found steps
        | none => .error .notFound

/-- What is at a path. -/
def lookUp (tree : FileTree) (path : String) : Except ReadFailure Entry :=
  if path.toList.contains '\x00' then .error .badPath
  else if path = "" then .error .notFound
  else if 4095 < path.utf8ByteSize then .error .nameTooLong
  else
    match path.toList with
    | '/' :: rest => walkOutside (Text.pieces '/' rest)
    | cs => tree.walk [] .directory (Text.pieces '/' cs)

/-- Whether there is a file at a path. -/
def isFile (tree : FileTree) (path : String) : Bool :=
  match tree.lookUp path with
  | .ok (.file _) => true
  | _ => false

/-- The contents of the file at a path. -/
def read (tree : FileTree) (path : String) : Except ReadFailure ByteArray :=
  match tree.lookUp path with
  | .ok (.file contents) => .ok contents
  | .ok .directory => .error .isADirectory
  | .error failure => .error failure

end FileTree

/-- The text of the contents of a file. -/
def textOfBytes (contents : ByteArray) : Except ReadFailure String :=
  match String.fromUTF8? contents with
  | some text => .ok text
  | none => .error .notText

end SqlDialect
