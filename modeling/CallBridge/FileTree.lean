import CallBridge.Text.Utf8

/-!
The files that the library reads and writes: a tree of directories, the paths that lead into it from
a working directory, and the ways in which an access fails.
-/

namespace CallBridge

inductive FileError where
  | notFound
  | alreadyExists
  | notADirectory
  | isADirectory
  /-- A name, or the path as a whole, is too long. -/
  | nameTooLong
  /-- A path contains a NUL. -/
  | nulInPath
  /-- The content is no text. -/
  | notText
deriving DecidableEq, Repr

namespace FileError

def message : FileError → String
  | notFound => "No such file or directory (os error 2)"
  | alreadyExists => "File exists (os error 17)"
  | notADirectory => "Not a directory (os error 20)"
  | isADirectory => "Is a directory (os error 21)"
  | nameTooLong => "File name too long (os error 36)"
  | nulInPath => "file name contained an unexpected NUL byte"
  | notText => "stream did not contain valid UTF-8"

/-- The number and the name of a failure that the operating system reports. -/
def debug : FileError → String
  | notFound => system 2 "NotFound" "No such file or directory"
  | alreadyExists => system 17 "AlreadyExists" "File exists"
  | notADirectory => system 20 "NotADirectory" "Not a directory"
  | isADirectory => system 21 "IsADirectory" "Is a directory"
  | nameTooLong => system 36 "InvalidFilename" "File name too long"
  | nulInPath => own "InvalidInput" "file name contained an unexpected NUL byte"
  | notText => own "InvalidData" "stream did not contain valid UTF-8"
where
  system (code : Nat) (kind text : String) : String :=
    "Os \x7b code: " ++ toString code ++ ", kind: " ++ kind ++ ", message: \"" ++ text ++ "\" \x7d"
  own (kind text : String) : String :=
    "Error \x7b kind: " ++ kind ++ ", message: \"" ++ text ++ "\" \x7d"

end FileError

inductive FileNode where
  | file (bytes : List UInt8)
  | directory
deriving DecidableEq, Repr

/-- A place in a tree: the names that lead to it from the root. -/
abbrev Place := List String

structure FileTree where
  /-- Name of a directory in the root. Paths that start with it do so there. -/
  home : String
  /-- The working directory, where paths without a slash in front start. -/
  working : Place := [home]
  nodes : List (Place × FileNode) := []
deriving DecidableEq, Repr

namespace FileTree

/-- Bytes of the longest name. -/
def nameLimit : Nat := 255

/-- Bytes of the longest path. -/
def pathLimit : Nat := 4095

def node? (t : FileTree) (p : Place) : Option FileNode :=
  if p = [] ∨ p = [t.home] then some .directory else t.nodes.lookup p

def set (t : FileTree) (p : Place) (n : FileNode) : FileTree :=
  { t with nodes := (p, n) :: t.nodes.filter (·.1 != p) }

/-- The names between the slashes of a path. -/
def names (path : String) : List String := (path.toList.splitOn '/').map String.ofList

/-- Where a path starts, and its names from there on. -/
def split (t : FileTree) (path : String) : Place × List String :=
  let names := names path
  (if names.head? = some "" ∨ names.head? = some t.home then [] else t.working, names)

/-- Whether a path can be looked up at all. -/
def admissible (path : String) : Except FileError Unit :=
  if '\x00' ∈ path.toList then .error .nulInPath
  else if path.utf8ByteSize ≤ pathLimit then .ok ()
  else .error .nameTooLong

/-- Follow names from a place. Every place but the last has to be a directory, and an empty name or
a dot stays where it is. -/
def walk (t : FileTree) : Place → List String → Except FileError Place
  | here, [] => .ok here
  | here, name :: rest =>
    match t.node? here with
    | none => .error .notFound
    | some (.file _) => .error .notADirectory
    | some .directory =>
      if name = "" ∨ name = "." then walk t here rest
      else if name = ".." then walk t here.dropLast rest
      else if nameLimit < name.utf8ByteSize then .error .nameTooLong
      else walk t (here ++ [name]) rest

/-- Follow names to a directory. -/
def walkInto (t : FileTree) (start : Place) (names : List String) : Except FileError Place :=
  t.walk start (names ++ ["."])

def resolve (t : FileTree) (path : String) : Except FileError Place := do
  admissible path
  if path = "" then .error .notFound else
    let (start, names) := t.split path
    t.walk start names

def read (t : FileTree) (path : String) : Except FileError (List UInt8) := do
  match t.node? (← t.resolve path) with
  | some (.file bytes) => .ok bytes
  | some .directory => .error .isADirectory
  | none => .error .notFound

def readText (t : FileTree) (path : String) : Except FileError String := do
  match Utf8.decode? (← t.read path) with
  | some cs => .ok (String.ofList cs)
  | none => .error .notText

/-- Write a file anew. A path that can only be that of a directory is refused as one, even where
nothing is. -/
def write (t : FileTree) (path : String) (bytes : List UInt8) : Except FileError FileTree := do
  admissible path
  if path = "" then .error .notFound else
    let (start, names) := t.split path
    let named := names.filter (· ≠ "")
    let directory ← t.walkInto start named.dropLast
    match named.getLast?, names.getLast? with
    | some name, some last =>
      if name = "." ∨ name = ".." ∨ last = "" then .error .isADirectory else
        let place ← t.walk directory [name]
        match t.node? place with
        | some .directory => .error .isADirectory
        | _ => .ok (t.set place (.file bytes))
    | _, _ => .error .isADirectory

/-- Make sure that a name in a directory is a file that can be added to; the place of the file. -/
def touch (t : FileTree) (directory name : String) : Except FileError (Place × FileTree) := do
  admissible (directory ++ "/" ++ name)
  let (start, names) := t.split directory
  let place ← t.walk start (names ++ [name])
  match t.node? place with
  | some .directory => .error .isADirectory
  | some (.file _) => .ok (place, t)
  | none => .ok (place, t.set place (.file []))

/-- Make a directory where there is nothing. -/
def makeDirectory (t : FileTree) (start : Place) (names : List String) :
    Except FileError FileTree := do
  let directory ← t.walkInto start names.dropLast
  match names.getLast? with
  | none => .error .alreadyExists
  | some name =>
    let place ← t.walk directory [name]
    match t.node? place with
    | some _ => .error .alreadyExists
    | none => .ok (t.set place .directory)

/-- Make a directory, given by its names from the last to the first, after those on the way to it
that are missing. A directory that is there already will do. The tree keeps what was made before a
failure. -/
def makeMissing (t : FileTree) (start : Place) : List String → Except FileError Unit × FileTree
  | [] => (.ok (), t)
  | name :: before =>
    let names := (name :: before).reverse
    let settle (t : FileTree) : Except FileError Unit × FileTree :=
      match t.makeDirectory start names, t.walkInto start names with
      | .ok t, _ => (.ok (), t)
      | .error _, .ok _ => (.ok (), t)
      | .error e, .error _ => (.error e, t)
    match t.makeDirectory start names with
    | .error .notFound =>
      match makeMissing t start before with
      | (.ok (), t) => settle t
      | failed => failed
    | _ => settle t

/-- Make all directories on the way from a place; names that stay where they are do not count. -/
def makeAll (t : FileTree) (start : Place) (names : List String) :
    Except FileError Unit × FileTree :=
  t.makeMissing start (names.filter fun n => n ≠ "" ∧ n ≠ ".").reverse

/-- Make a directory and all on the way to it. -/
def makeDirectories (t : FileTree) (path : String) : Except FileError Unit × FileTree :=
  match admissible path with
  | .error e => (.error e, t)
  | .ok () =>
    let (start, names) := t.split path
    t.makeAll start names

/-- A tree that holds the given files below its home, which is the working directory. A file whose
path cannot be made is left out. -/
def ofFiles (home : String) (files : List (String × List UInt8)) : FileTree :=
  files.foldl (fun t (path, bytes) =>
    let names := names path
    let (_, t) := t.makeAll [home] names.dropLast
    match t.walk [home] names with
    | .ok place => t.set place (.file bytes)
    | .error _ => t) { home }

end FileTree

/-- Variables that the process was started with. A value need not be text. -/
structure Environment where
  entries : List (String × List UInt8) := []
deriving DecidableEq, Repr

/-- A variable's value. One that is no text counts as not set. -/
def Environment.text? (e : Environment) (name : String) : Option String :=
  ((e.entries.lookup name).bind Utf8.decode?).map String.ofList

end CallBridge
