import Montage.Decimal.Numeral

/-!
What a command needs of a disk, and a disk that is held in memory.

The disk in memory is a working directory. A path is walked from there, one directory after the
other, and each step has to lead to a directory.
-/

namespace Montage.CommandLine

inductive DiskError where
  | notFound
  | alreadyExists
  | notADirectory
  | isADirectory
  | other (reason : String)

def DiskError.message : DiskError → String
  | notFound => "No such file or directory (os error 2)"
  | alreadyExists => "File exists (os error 17)"
  | notADirectory => "Not a directory (os error 20)"
  | isADirectory => "Is a directory (os error 21)"
  | other reason => reason

/-- A disk whose operations run in `m`. -/
structure Disk (m : Type → Type) where
  read : String → m (Except DiskError ByteArray)
  /-- Makes a directory and those it lies in, as far as they are missing. -/
  makeDirectories : String → m (Except DiskError Unit)
  write : String → String → m (Except DiskError Unit)

/-- The names in a path, and whether it starts at the root. Names that are empty or a point lead
nowhere; a point in front is kept. -/
def splitPath (path : String) : Bool × List String :=
  match path.splitOn "/" with
  | [] => (false, [])
  | first :: rest =>
    let others := rest.filter fun name => name != "" && name != "."
    if first.isEmpty then (!rest.isEmpty, others) else (false, first :: others)

/-- The directory that a path lies in; empty for a name alone. -/
def parentPath (path : String) : String :=
  let (rooted, names) := splitPath path
  (if rooted then "/" else "") ++ "/".intercalate names.dropLast

/-- Names from the working directory on. -/
abbrev Location := List String

/-- A working directory: the directories in it and the contents of its files. -/
structure Folder where
  directories : List Location := []
  files : List (Location × ByteArray) := []

namespace Folder

def isDirectory (f : Folder) (l : Location) : Bool := l.isEmpty || f.directories.contains l

def file? (f : Folder) (l : Location) : Option ByteArray := (f.files.find? (·.1 == l)).map (·.2)

def names (path : String) : List String := (splitPath path).2.filter (· != ".")

/-- Why a location that should be a directory is none. -/
def obstacle (f : Folder) (l : Location) : DiskError :=
  if (f.file? l).isSome then .notADirectory else .notFound

/-- The location that names lead to, where all names but the last one have to be directories. -/
def walk (f : Folder) (l : Location) : List String → Except DiskError Location
  | [] => .ok l
  | name :: rest =>
    if f.isDirectory l then walk f (if name == ".." then l.dropLast else l ++ [name]) rest
    else .error (f.obstacle l)

/-- A path with a slash or a point at its end can only name a directory. -/
def endsInSlash (path : String) : Bool := path.endsWith "/"

def endsInPoint (path : String) : Bool := path == "." || path.endsWith "/."

def read (f : Folder) (path : String) : Except DiskError ByteArray := do
  let l ← f.walk [] (names path)
  if f.isDirectory l then throw .isADirectory
  match f.file? l with
  | none => throw .notFound
  | some bytes =>
    if endsInSlash path || endsInPoint path then throw .notADirectory else return bytes

def makeDirectory (f : Folder) (l : Location) : Except DiskError Folder :=
  if f.isDirectory l then .ok f
  else if (f.file? l).isSome then .error .alreadyExists
  else .ok { f with directories := f.directories ++ [l] }

/-- Goes along names and makes the directories that are missing. -/
def makeAlong (f : Folder) (l : Location) : List String → Except DiskError Folder
  | [] => .ok f
  | name :: rest =>
    if name == ".." then makeAlong f l.dropLast rest
    else
      match f.makeDirectory (l ++ [name]) with
      | .ok f => makeAlong f (l ++ [name]) rest
      | .error e => .error (if rest.isEmpty then e else .notADirectory)

def makeDirectories (f : Folder) (path : String) : Except DiskError Folder :=
  f.makeAlong [] (names path)

/-- Puts a file in the place of the one that is there. -/
def put (f : Folder) (l : Location) (bytes : ByteArray) : Folder :=
  { f with files := f.files.filter (·.1 != l) ++ [(l, bytes)] }

def write (f : Folder) (path text : String) : Except DiskError Folder := do
  let l ← f.walk [] (names path)
  if f.isDirectory l || endsInSlash path then throw .isADirectory
  if endsInPoint path then throw (f.obstacle l)
  return f.put l text.toUTF8

/-- A folder with some files, in the directories that they need. -/
def ofFiles (files : List (String × String)) : Folder :=
  files.foldl (fun f e =>
    let l := names e.1
    let f := match f.makeAlong [] l.dropLast with
      | .ok f => f
      | .error _ => f
    f.put l e.2.toUTF8) {}

/-- The folder as a disk. -/
def disk : Disk (StateM Folder) where
  read path := do return (← get).read path
  makeDirectories path := modifyGet fun f => match f.makeDirectories path with
    | .ok f => (.ok (), f)
    | .error e => (.error e, f)
  write path text := modifyGet fun f => match f.write path text with
    | .ok f => (.ok (), f)
    | .error e => (.error e, f)

end Folder

end Montage.CommandLine
