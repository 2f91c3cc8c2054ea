import Gatehouse.Store.Image

/-! # Where a database is kept

A database is kept in memory or in a file. The folders above the file are made first, those that are
missing from the top on. A plain file may stand in the way: as the folder itself, as a folder above
it, or at the place of the database; there it must hold a database. Two dots in a path lead back to
the folder above, one dot and an empty name lead nowhere. Every database is brought up to date when
it is opened.
-/

namespace Gatehouse.Store

inductive Place where
  | memory
  /-- A file, by the names of the folders above it and its own. -/
  | file (path : List String)
deriving DecidableEq, Repr

/-- A plain file that was there before, and the folders above it. -/
structure Obstacle where
  path : List String
  content : Image
deriving DecidableEq, Repr

namespace Place

/-- How many bytes a name may have. -/
def nameLimit : Nat := 255

/-- How many bytes a path may have. -/
def pathLimit : Nat := 4096

/-- The longest name of a database file: the names of the files beside it are longer by eight. -/
def fileNameLimit : Nat := nameLimit - 8

/-- The names of a path that lead anywhere. -/
def steps (path : List String) : List String :=
  (path.flatMap (·.splitOn "/")).filter fun name => name ≠ "" ∧ name ≠ "."

/-- Where a path leads to, by the names from the top on. -/
def target (path : List String) : List String :=
  (steps path).foldl (fun folder name => if name = ".." then folder.dropLast else folder ++ [name])
    []

/-- Walk along folders and make those that are missing; `made` if one was missing before. A file in
the way is found as the last folder that has to be made, or else on the way to it. -/
def makeFolders (obstacle : Option (List String)) (folder : List String) (made : Bool) :
    List String → Except FolderFault (List String)
  | [] => .ok folder
  | name :: rest =>
    let next := folder ++ [name]
    if name = ".." then makeFolders obstacle folder.dropLast made rest
    else if nameLimit < name.utf8ByteSize then .error .nameTooLong
    else if obstacle = some next then
      .error (if made ∨ rest = [] then .fileExists else .notADirectory)
    else makeFolders obstacle next (made || !obstacle.any next.isPrefixOf) rest

/-- Make the folders of a path, if it is a text that can name any. -/
def makePath (obstacle : Option (List String)) (names : List String) :
    Except FolderFault (List String) :=
  if names.any fun name => name.toList.contains (Char.ofNat 0) then .error .badName
  else if pathLimit ≤ names.foldl (fun size name => size + name.utf8ByteSize + 1) 0 then
    .error .nameTooLong
  else makeFolders obstacle [] false names

/-- Open a database file that stands in a folder. -/
def openFile (obstacle : Option Obstacle) (folder : List String) (name : String) :
    Except StoreFault Database :=
  let path := folder ++ [name]
  let there := obstacle.map fun o => (target o.path, o.content)
  let unusable := name = ".." ∨ nameLimit < name.utf8ByteSize ∨
    there.any fun o => path.isPrefixOf o.1 ∧ path ≠ o.1
  if unusable then .error (.database .cannotOpen)
  else
    let content := (there.filter (·.1 = path)).map Prod.snd
    let opened := (content.getD (.ofText "")).openDatabase
    if fileNameLimit < name.utf8ByteSize then opened.bind fun _ => .error (.database .cannotOpen)
    else opened

/-- Open a new database. -/
def openNew (place : Place) (obstacle : Option Obstacle) : Except StoreFault Database :=
  match place with
  | .memory => (Image.ofText "").openDatabase
  | .file path =>
    match (steps path).getLast? with
    | none => .error (.database .cannotOpen)
    | some name =>
      match makePath (obstacle.map fun o => target o.path) (steps path).dropLast with
      | .ok folder => openFile obstacle folder name
      | .error fault => .error (.folder fault)

/-- The name of the database file. -/
def fileName? : Place → Option String
  | .memory => none
  | .file path => (steps path).getLast?

/-- How changes are kept until they are complete. -/
def journalMode : Place → String
  | .memory => "memory"
  | .file _ => "wal"

end Place

end Gatehouse.Store
