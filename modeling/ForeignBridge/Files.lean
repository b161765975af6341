import ForeignBridge.Failure
import ForeignBridge.Text.Path

/-!
Files and the directories they are in. A path is walked name by name from the directory it starts in; every name
but the last must be one of a directory, and two points lead back to the directory above. A place is where a
path leads, as the names that lead there without a way back.
-/

namespace ForeignBridge

structure Files where
  texts : List (String × String)
  /-- places of directories that are there with or without files in them -/
  directories : List String
deriving Inhabited

inductive Obstacle
  | absent
  | notDirectory
  | nameTooLong
  /-- a name with the character in it that ends names -/
  | nullCharacter
deriving DecidableEq, Repr

namespace Files

def ofTexts (texts : List (String × String)) : Files := ⟨texts, []⟩

def textAt? (files : Files) (place : List String) : Option String :=
  Value.lookup (Path.ofNames place) files.texts

def isDirectory (files : Files) (place : List String) : Bool :=
  place.all (fun n => n = ".." || n = "/") || files.directories.contains (Path.ofNames place)
    || files.texts.any fun f => f.1.startsWith (Path.ofNames place ++ "/")

/-- The place that a name leads to from a directory. -/
def step (place : List String) (name : String) : List String :=
  if name ≠ ".." then place ++ [name]
  else
    match place.getLast? with
    | none | some ".." => place ++ [name]
    | some "/" => place
    | some _ => place.dropLast

/-- The place that names lead to where every directory on the way is there. -/
def placeNamed (names : List String) : String := Path.ofNames (names.foldl step [])

/-- The most bytes that a name may have, and a path. -/
def longestName : Nat := 255

def longestPath : Nat := 4095

def walk (files : Files) (place : List String) : List String → Except Obstacle (List String)
  | [] => .ok place
  | name :: rest =>
    if !files.isDirectory place then
      .error (if (files.textAt? place).isSome then .notDirectory else .absent)
    else if longestName < name.utf8ByteSize then .error .nameTooLong
    else walk files (step place name) rest

def place (files : Files) (names : List String) : Except Obstacle (List String) :=
  if names.any fun n => n.toList.contains '\x00' then .error .nullCharacter
  else if longestPath < (Path.ofNames names).utf8ByteSize then .error .nameTooLong
  else
    match names with
    | "/" :: rest => files.walk ["/"] rest
    | names => files.walk [] names

def write (files : Files) (place : List String) (text : String) : Files :=
  { files with texts := Value.put (Path.ofNames place) text files.texts }

/-- What an obstacle on the way to something that is to be made means. -/
def failure (names : List String) : Obstacle → Failure
  | .absent => .noFile "Directory" (Path.shown names)
  | .notDirectory => .notDirectory (Path.shown names)
  | .nameTooLong => .nameTooLong (Path.shown names)
  | .nullCharacter => .nullInPath

/-- Makes a directory, unless it is there. -/
def makeOne (files : Files) (names : List String) : Except Failure Files :=
  match files.place names with
  | .error o => .error (failure names o)
  | .ok place =>
    if (files.textAt? place).isSome then .error (.fileExists (Path.shown names))
    else if files.isDirectory place then .ok files
    else .ok { files with directories := files.directories ++ [Path.ofNames place] }

/-- Makes the directory that names lead to, the last name first, and those on the way that are not there. -/
def makeAll (files : Files) : List String → Except Failure Files
  | [] => .ok files
  | name :: above =>
    let names := (name :: above).reverse
    match files.place names with
    | .error .absent => do (← makeAll files above).makeOne names
    | _ => files.makeOne names

/-- Opens a file to write to it, with what it holds so far and the directories that lead to it made. -/
def openAt (files : Files) (path : String) : Except Failure (Files × List String × Option String) := do
  let names := Path.names path
  let files ← files.makeAll names.dropLast.reverse
  match files.place names with
  | .error o => throw (failure names o)
  | .ok place =>
    if files.isDirectory place then throw (.notFile (Path.shown names))
    else return (files, place, files.textAt? place)

/-- Saves a text, if its path can be written to. -/
def save (files : Files) (path text : String) : Except Failure Files := do
  let (files, place, _) ← files.openAt path
  return files.write place text

/-- The text of a file; `missing` is what was looked for. -/
def read (files : Files) (missing path : String) : Except Failure String :=
  let names := Path.names path
  match files.place names with
  | .error .nameTooLong => .error (.nameTooLong (Path.shown names))
  | .error _ => .error (.noFile missing path)
  | .ok place =>
    match files.textAt? place with
    | some text => .ok text
    | none => .error (if files.isDirectory place then .notFile (Path.shown names) else .noFile missing path)

end Files

end ForeignBridge
