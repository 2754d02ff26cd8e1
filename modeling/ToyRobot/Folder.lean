import ToyRobot.Text.Split

/-!
# Files by name

All that a run of the program knows of files is what comes of reading a path: bytes, or why there
are none (`Folder`). How paths lead to files is the affair of the system, so any answers will do,
for relative paths and for absolute ones.

One kind of folder is given by its files (`Folder.ofFiles`), in a system that has no others. There a
path is followed from name to name: names lead into folders, `.` stays, `..` leads out, and beyond a
file there is nowhere to go.
-/

namespace ToyRobot

open Text

/-- Why a file cannot be read. -/
inductive ReadFailure where
  | missing
  | notDirectory
  | isDirectory
  | nameTooLong
  | nulInName
  | denied
  | other (text : String)
deriving Repr, DecidableEq

def ReadFailure.message : ReadFailure → String
  | .missing => "No such file or directory (os error 2)"
  | .notDirectory => "Not a directory (os error 20)"
  | .isDirectory => "Is a directory (os error 21)"
  | .nameTooLong => "File name too long (os error 36)"
  | .nulInName => "file name contained an unexpected NUL byte"
  | .denied => "Permission denied (os error 13)"
  | .other text => text

/-- What comes of reading the file at a path, for every path. -/
structure Folder where
  read : String → Except ReadFailure (List UInt8)

/-! ## Folders of known files -/

/-- Files and their bytes, each under the names that lead to it. -/
structure FileTree where
  files : List (List (List Char) × List UInt8)
deriving Repr, DecidableEq

namespace FileTree

/-- Where a path has led so far. -/
inductive Place where
  /-- In the folder or below it, under these names. -/
  | within (names : List (List Char))
  /-- Above the folder, or beside it, where nothing is known to be. -/
  | outside
  /-- At a file. -/
  | file (bytes : List UInt8)
deriving Repr, DecidableEq

def names (path : String) : List (List Char) := split '/' path.toList

/-- Whether a name leads nowhere else. -/
def staysPut (name : List Char) : Bool := name = [] || name = ['.']

def ofFiles (files : List (String × List UInt8)) : FileTree :=
  ⟨files.map fun file => ((names file.1).filter (!staysPut ·), file.2)⟩

def byteLength (text : List Char) : Nat := (String.ofList text).utf8ByteSize

/-- The greatest number of bytes in a name. -/
def longestName : Nat := 255

/-- The greatest number of bytes in a path. -/
def longestPath : Nat := 4095

/-- One name further inside the folder. -/
def enter (d : FileTree) (inside : List (List Char)) (name : List Char) :
    Except ReadFailure Place :=
  let path := inside ++ [name]
  match d.files.find? fun file => file.1 == path with
  | some file => .ok (.file file.2)
  | none =>
    if d.files.any fun file => path.isPrefixOf file.1 then .ok (.within path) else .error .missing

/-- One name further. -/
def follow (d : FileTree) (place : Place) (name : List Char) : Except ReadFailure Place :=
  match place with
  | .file _ => .error .notDirectory
  | .within inside =>
    if staysPut name then .ok place
    else if name = ['.', '.'] then
      .ok (if inside.isEmpty then .outside else .within inside.dropLast)
    else if longestName < byteLength name then .error .nameTooLong
    else d.enter inside name
  | .outside =>
    if staysPut name || name = ['.', '.'] then .ok .outside
    else if longestName < byteLength name then .error .nameTooLong
    else .error .missing

def read (d : FileTree) (path : String) : Except ReadFailure (List UInt8) :=
  let text := path.toList
  if text.contains '\x00' then .error .nulInName
  else if text = [] then .error .missing
  else if longestPath < path.utf8ByteSize then .error .nameTooLong
  else
    let origin := if text.head? = some '/' then Place.outside else Place.within []
    match (names path).foldlM d.follow origin with
    | .error e => .error e
    | .ok (.file bytes) => .ok bytes
    | .ok _ => .error .isDirectory

end FileTree

/-- The folder of the given files, where there are no others. -/
def Folder.ofFiles (files : List (String × List UInt8)) : Folder := ⟨(FileTree.ofFiles files).read⟩

def Folder.empty : Folder := .ofFiles []

end ToyRobot
