import TextQuest.Path

namespace TextQuest

inductive FileError
  | notFound
  | notDirectory
  | isDirectory
  | permissionDenied
  | nameTooLong
  | nulInPath
  | nulInArgument
  | notText
  deriving DecidableEq

def FileError.message : FileError → String
  | notFound => "No such file or directory (os error 2)"
  | notDirectory => "Not a directory (os error 20)"
  | isDirectory => "Is a directory (os error 21)"
  | permissionDenied => "Permission denied (os error 13)"
  | nameTooLong => "File name too long (os error 36)"
  | nulInPath => "file name contained an unexpected NUL byte"
  | nulInArgument => "nul byte found in provided data"
  | notText => "stream did not contain valid UTF-8"

inductive FileTree.Entry
  | file (content : ByteArray)
  | directory

structure FileTree where
  entries : List (List String × FileTree.Entry) := []

namespace FileTree

inductive Place
  | file (names : List String) (content : ByteArray)
  | directory (names : List String)
  /-- A directory above the current one, of which nothing is known. -/
  | above

def Place.isDirectory : Place → Bool
  | file .. => false
  | _ => true

def entry? (tree : FileTree) (names : List String) : Option Entry :=
  (tree.entries.find? (·.1 == names)).map (·.2)

def nameLimit : Nat := 255
def pathLimit : Nat := 4095

def follow (tree : FileTree) (place : Place) (part : String) : Except FileError Place :=
  match place with
  | .file .. => .error .notDirectory
  | .above =>
    if part = "" ∨ part = "." ∨ part = ".." then .ok .above
    else if nameLimit < part.utf8ByteSize then .error .nameTooLong
    else .error .notFound
  | .directory names =>
    if part = "" ∨ part = "." then .ok place
    else if part = ".." then .ok (if names = [] then .above else .directory names.dropLast)
    else if nameLimit < part.utf8ByteSize then .error .nameTooLong
    else match tree.entry? (names ++ [part]) with
      | some (.file content) => .ok (.file (names ++ [part]) content)
      | some .directory => .ok (.directory (names ++ [part]))
      | none => .error .notFound

def locateParts (tree : FileTree) (absolute : Bool) (parts : List String) : Except FileError Place :=
  parts.foldlM tree.follow (if absolute then .above else .directory [])

def checkPath (path : String) : Except FileError Unit :=
  if path.toList.contains '\x00' then .error .nulInPath
  else if path = "" then .error .notFound
  else if pathLimit < path.utf8ByteSize then .error .nameTooLong
  else .ok ()

def locate (tree : FileTree) (path : String) : Except FileError Place := do
  checkPath path
  tree.locateParts (Path.isAbsolute path) (Path.parts path)

def hasPath (tree : FileTree) (path : String) : Bool := (tree.locate path).toOption.isSome

def isFile (tree : FileTree) (path : String) : Bool :=
  match tree.locate path with
  | .ok (.file ..) => true
  | _ => false

def read (tree : FileTree) (path : String) : Except FileError ByteArray := do
  match ← tree.locate path with
  | .file _ content => return content
  | _ => throw .isDirectory

def readText (tree : FileTree) (path : String) : Except FileError String := do
  match String.fromUTF8? (← tree.read path) with
  | some text => return text
  | none => throw .notText

def put (tree : FileTree) (names : List String) (entry : Entry) : FileTree :=
  ⟨(names, entry) :: tree.entries.filter (·.1 != names)⟩

def writeIn (tree : FileTree) (place : Place) (name : String) (content : ByteArray) :
    Except FileError FileTree :=
  if name = "." ∨ name = ".." then .error .isDirectory
  else if nameLimit < name.utf8ByteSize then .error .nameTooLong
  else match place with
    | .file .. => .error .notDirectory
    | .above => .error .permissionDenied
    | .directory names =>
      match tree.entry? (names ++ [name]) with
      | some .directory => .error .isDirectory
      | _ => .ok (tree.put (names ++ [name]) (.file content))

/-- Writes a file. A path with a slash at its end is taken for one of a directory, whether there is
one or not. -/
def write (tree : FileTree) (path : String) (content : ByteArray) : Except FileError FileTree := do
  checkPath path
  let parts := Path.parts path
  match parts.reverse.dropWhile (· = "") with
  | [] => throw .isDirectory
  | name :: before =>
    match ← tree.locateParts (Path.isAbsolute path) before.reverse with
    | .file .. => throw .notDirectory
    | place =>
      if parts.getLast? = some "" then throw .isDirectory else tree.writeIn place name content

def addDirectory (tree : FileTree) (names : List String) : FileTree :=
  ((List.range (names.length + 1)).map names.take).foldl (fun tree lead =>
    if lead = [] ∨ (tree.entry? lead).isSome then tree else tree.put lead .directory) tree

def addFile (tree : FileTree) (names : List String) (content : ByteArray) : FileTree :=
  (tree.addDirectory names.dropLast).put names (.file content)

def Entry.place (names : List String) : Entry → Place
  | file content => .file names content
  | directory => .directory names

/-- Paths, relative to a directory, and places of all that lies below it: each directory before what
lies in it, and otherwise in the order of names. -/
def descendants (tree : FileTree) (names : List String) : List (List String × Place) :=
  let below := tree.entries.filterMap fun (path, entry) =>
    if names.isPrefixOf path ∧ names ≠ path then
      some (path.drop names.length, entry.place path)
    else none
  below.mergeSort fun a b => !decide (b.1 < a.1)

def children (tree : FileTree) (names : List String) : List (String × Place) :=
  (tree.descendants names).filterMap fun (path, place) =>
    match path with
    | [name] => some (name, place)
    | _ => none

end FileTree
end TextQuest
