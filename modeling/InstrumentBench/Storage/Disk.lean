import InstrumentBench.Storage.IoError
import InstrumentBench.Storage.Path

/-!
# Disks

A disk as a value: files and directories by their place below the root.  The
operations follow the rules of a POSIX file system without links and
permissions, down to which error is reported when.
-/

namespace InstrumentBench

/-- What stands at a place. -/
inductive Node where
  | file (contents : ByteArray)
  | directory

/-- The names that lead from the root to a place. -/
abbrev Place := List String

/-- A file system and the directory that relative paths start from. -/
structure Disk where
  current : Place
  nodes : List (Place × Node)

namespace Disk

/-- What stands at a place; the root is a directory. -/
def node? (disk : Disk) (place : Place) : Option Node :=
  if place = [] then some .directory else disk.nodes.lookup place

/-- The disk with a place left out, but not what lies below it. -/
def erase (disk : Disk) (place : Place) : Disk :=
  { disk with nodes := disk.nodes.filter (·.1 ≠ place) }

/-- The disk with a node at a place. -/
def put (disk : Disk) (place : Place) (node : Node) : Disk :=
  { disk with nodes := (place, node) :: (disk.erase place).nodes }

/-- The longest name of a file, in bytes. -/
def maxName : Nat := 255

/-- The longest path, in bytes. -/
def maxPath : Nat := 4095

/-- The place one name below a directory. -/
def below (directory : Place) (name : String) : Except IoError Place :=
  if name = "." then .ok directory
  else if name = ".." then .ok directory.dropLast
  else if maxName < name.utf8ByteSize then .error .nameTooLong
  else .ok (directory ++ [name])

/-- The place that names lead to from a directory.  All but the last must be
directories; the last need not exist. -/
def walk (disk : Disk) (directory : Place) : List String → Except IoError Place
  | [] => .ok directory
  | [name] => below directory name
  | name :: next :: rest => do
    let place ← below directory name
    match disk.node? place with
    | none => .error .notFound
    | some (.file _) => .error .notADirectory
    | some .directory => walk disk place (next :: rest)

/-- The place that a path names, whether or not something stands there. -/
def locate (disk : Disk) (path : String) : Except IoError Place :=
  if path = "" then .error .notFound
  else if '\x00' ∈ path.toList then .error .nulInPath
  else if maxPath < path.utf8ByteSize then .error .nameTooLong
  else walk disk (if Path.isAbsolute path then [] else disk.current) (Path.pieces path)

/-- The place that a path names and what stands there. -/
def find (disk : Disk) (path : String) : Except IoError (Place × Node) := do
  let place ← disk.locate path
  match disk.node? place with
  | none => .error .notFound
  | some (.file contents) =>
    if Path.endsInSlash path then .error .notADirectory else .ok (place, .file contents)
  | some .directory => .ok (place, .directory)

/-- Whether something stands where a path leads. -/
def exists? (disk : Disk) (path : String) : Bool :=
  match disk.find path with
  | .ok _ => true
  | .error _ => false

/-- Whether a path leads to a directory. -/
def isDirectory (disk : Disk) (path : String) : Bool :=
  match disk.find path with
  | .ok (_, .directory) => true
  | _ => false

/-- The contents of a file. -/
def read (disk : Disk) (path : String) : Except IoError ByteArray := do
  match ← disk.find path with
  | (_, .file contents) => .ok contents
  | (_, .directory) => .error .isADirectory

/-- Makes one directory in an existing one. -/
def makeDirectory (disk : Disk) (path : String) : Except IoError Disk := do
  let place ← disk.locate path
  match disk.node? place with
  | some _ => .error .alreadyExists
  | none => .ok (disk.put place .directory)

/-- Makes a directory unless it is there already. -/
def ensureDirectory (disk : Disk) (path : String) : Except IoError Unit × Disk :=
  match disk.makeDirectory path with
  | .ok disk => (.ok (), disk)
  | .error error => (if disk.isDirectory path then .ok () else .error error, disk)

/-- Makes a directory, after `makeAbove` has made what is missing above it. -/
def makeBelow (disk : Disk) (path : String) (makeAbove : Disk → Except IoError Unit × Disk) :
    Except IoError Unit × Disk :=
  match disk.ensureDirectory path with
  | (.error .notFound, disk) =>
    match makeAbove disk with
    | (.ok (), disk) => disk.ensureDirectory path
    | (.error error, disk) => (.error error, disk)
  | result => result

/-- Makes a directory and those missing above it; its components are given
last one first. -/
def makeChain (absolute : Bool) : (componentsBack : List String) → Disk →
    Except IoError Unit × Disk
  | [], disk => (.ok (), disk)
  | name :: above, disk =>
    disk.makeBelow (Path.ofComponents absolute (name :: above).reverse) (makeChain absolute above)

/-- Makes a directory, and first those above it that are missing.  Failing, it
leaves the directories made so far. -/
def makeDirectories (disk : Disk) (path : String) : Except IoError Unit × Disk :=
  if path = "" then (.ok (), disk)
  else
    disk.makeBelow path (makeChain (Path.isAbsolute path) (Path.components path).dropLast.reverse)

/-- The place of a file to be written and its contents so far; a missing file
has none. -/
def openFile (disk : Disk) (path : String) : Except IoError (Place × ByteArray) := do
  let place ← disk.locate path
  match disk.node? place with
  | none => if Path.endsInSlash path then .error .isADirectory else .ok (place, ByteArray.empty)
  | some (.file contents) =>
    if Path.endsInSlash path then .error .notADirectory else .ok (place, contents)
  | some .directory => .error .isADirectory

/-- Makes a file empty, creating it if it is missing. -/
def createFile (disk : Disk) (path : String) : Except IoError Disk := do
  let (place, _) ← disk.openFile path
  return disk.put place (.file ByteArray.empty)

/-- Adds to the end of a file, creating it if it is missing. -/
def appendFile (disk : Disk) (path : String) (data : ByteArray) : Except IoError Disk := do
  let (place, contents) ← disk.openFile path
  return disk.put place (.file (contents ++ data))

/-- Whether anything lies below a place. -/
def hasEntries (disk : Disk) (place : Place) : Bool :=
  disk.nodes.any fun entry => place.isPrefixOf entry.1 && entry.1 ≠ place

/-- The place of an entry after the directory `source` has become `target`. -/
def moved (source target place : Place) : Place :=
  if source.isPrefixOf place then target ++ place.drop source.length else place

/-- The disk after a directory has become the directory at `target`. -/
def moveTree (disk : Disk) (source target : Place) : Disk :=
  { disk with nodes := disk.nodes.map fun entry => (moved source target entry.1, entry.2) }

/-- Moves a file or a directory, over a file or an empty directory at the
target. -/
def rename (disk : Disk) (source target : String) : Except IoError Disk := do
  let origin ← disk.locate source
  let goal ← disk.locate target
  if Path.endsInDots source ∨ Path.endsInDots target then .error .busy
  else
    match (← disk.find source).2, disk.node? goal with
    | .file contents, occupant =>
      if Path.endsInSlash target then .error .notADirectory
      else
        match occupant with
        | some .directory => .error .isADirectory
        | _ => return (disk.erase origin).put goal (.file contents)
    | .directory, occupant =>
      if origin = goal then return disk
      else if origin.isPrefixOf goal then .error .invalidMove
      else
        match occupant with
        | some (.file _) => .error .notADirectory
        | some .directory =>
          if disk.hasEntries goal then .error .directoryNotEmpty
          else return (disk.erase goal).moveTree origin goal
        | none => return disk.moveTree origin goal

end Disk

end InstrumentBench
