/-!
# File trees

A tree of directories and files, and a place in it from which paths are followed. Absolute paths begin at
the root, which is the last of the directories above a place. Files and directories may be there and yet
be barred; nothing can be read from them or looked up in them.
-/

namespace SoqlSelect

/-- Why something that is there cannot be opened. -/
inductive Barrier
  | permission
  | device
deriving DecidableEq

inductive FileTree
  | file (content : ByteArray)
  | directory (entries : List (String × FileTree))
  | barredFile (barrier : Barrier)
  | barredDirectory (barrier : Barrier)

/-- Why a file cannot be read. -/
inductive FileError
  | notFound
  | notADirectory
  | isADirectory
  | barred (barrier : Barrier)
  | nameTooLong
  | notUtf8
  | nulInName
deriving DecidableEq

def FileError.message : FileError → String
  | .notFound => "No such file or directory (os error 2)"
  | .notADirectory => "Not a directory (os error 20)"
  | .isADirectory => "Is a directory (os error 21)"
  | .barred .permission => "Permission denied (os error 13)"
  | .barred .device => "Input/output error (os error 5)"
  | .nameTooLong => "File name too long (os error 36)"
  | .notUtf8 => "stream did not contain valid UTF-8"
  | .nulInName => "file name contained an unexpected NUL byte"

namespace FileTree

def isDirectory : FileTree → Bool
  | .directory _ | .barredDirectory _ => true
  | .file _ | .barredFile _ => false

/-- Names can be looked up in a directory that is not barred. -/
def enter : FileTree → Except FileError Unit
  | .directory _ => .ok ()
  | .barredDirectory barrier => .error (.barred barrier)
  | .file _ | .barredFile _ => .error .notADirectory

/-- The entry of a directory. -/
def entry? (name : String) : FileTree → Option FileTree
  | .directory entries => (entries.find? fun (n, _) => n == name).map (·.2)
  | .barredDirectory _ | .file _ | .barredFile _ => none

/-- What reading a file gives. A directory is none. -/
def content? : FileTree → Option (Except FileError ByteArray)
  | .file content => some (.ok content)
  | .barredFile barrier => some (.error (.barred barrier))
  | .directory _ | .barredDirectory _ => none

/-- The text of a file. -/
def text : FileTree → Except FileError String
  | .directory _ => .error .isADirectory
  | .barredDirectory barrier | .barredFile barrier => .error (.barred barrier)
  | .file content =>
    match String.fromUTF8? content with
    | some text => .ok text
    | none => .error .notUtf8

/-- Puts a tree at a path, with the directories on the way to it. A directory that is there stays. -/
def put (tree : FileTree) : List String → FileTree → FileTree
  | [], there =>
    match tree, there with
    | .directory [], .directory _ => there
    | _, _ => tree
  | name :: path, there =>
    let entries := match there with
      | .directory entries => entries
      | _ => []
    let child := put tree path (((entries.find? fun (n, _) => n == name).map (·.2)).getD (.directory []))
    .directory ((entries.filter fun (n, _) => n != name) ++ [(name, child)])

end FileTree

/-- A place in a tree with the directories above it, the nearest first and the root last. -/
structure Place where
  here : FileTree
  above : List FileTree := []

namespace Place

/-- The longest name, in bytes. -/
def nameLimit : Nat := 255

/-- The longest path, in bytes. -/
def pathLimit : Nat := 4095

def root (p : Place) : Place := { here := p.above.getLastD p.here }

/-- The directory above the place. The root is above itself. -/
def parent (p : Place) : Place :=
  match p.above with
  | [] => p
  | tree :: above => { here := tree, above }

/-- The entry of a directory, as a place. -/
def child? (p : Place) (name : String) : Option Place :=
  (p.here.entry? name).map fun tree => { here := tree, above := p.here :: p.above }

/-- Follows one name of a path. Only a directory can be left. A slash at the end of a path is followed by
an empty name, for which nothing is looked up. -/
def step (p : Place) (name : String) : Except FileError Place :=
  if name = "" then if p.here.isDirectory then .ok p else .error .notADirectory
  else do
    p.here.enter
    if name = "." then .ok p
    else if name = ".." then .ok p.parent
    else if nameLimit < name.utf8ByteSize then .error .nameTooLong
    else (p.child? name).elim (.error .notFound) .ok

/-- The names of a path, between its slashes. -/
def names (path : String) : List String :=
  path.splitToList (· == '/')

/-- Follows a path. -/
def follow (p : Place) (path : String) : Except FileError Place :=
  if path.toList.contains '\x00' then .error .nulInName
  else if path = "" then .error .notFound
  else if pathLimit < path.utf8ByteSize then .error .nameTooLong
  else
    let start := if path.toList.head? = some '/' then p.root else p
    (names path).foldlM step start

/-- Something is there at the path. -/
def has (p : Place) (path : String) : Bool :=
  (p.follow path).isOk

/-- The text of the file at a path. -/
def read (p : Place) (path : String) : Except FileError String := do
  (← p.follow path).here.text

/-- What reading the nearest file of that name gives, from the place upward. The file is looked for by its
path from the root, so that all directories down to the place have to be entered. -/
def nearest? (p : Place) (name : String) : Option (Except FileError ByteArray) :=
  let upward := p.here :: p.above
  match upward.reverse.forM FileTree.enter with
  | .error cause => some (.error cause)
  | .ok _ => upward.findSome? fun directory => (directory.entry? name).bind FileTree.content?

end Place

end SoqlSelect
