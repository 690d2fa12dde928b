import InstrumentBench.Text.Split

/-!
# Paths

File names as texts with slashes.  The functions here work on the text alone
and never look at a disk: joining, the parent, the last component, the
siblings that differ from a file by a suffix, and the absolute form.
-/

namespace InstrumentBench.Path

/-- Whether a path starts at the root. -/
def isAbsolute (path : String) : Bool :=
  path.toList.head? = some '/'

/-- Whether a path ends in a slash, and so can only name a directory. -/
def endsInSlash (path : String) : Bool :=
  path.toList.getLast? = some '/'

/-- The pieces of a path that are not empty. -/
def pieces (path : String) : List String :=
  ((Text.fields '/' path.toList).map String.ofList).filter (· ≠ "")

/-- Whether a path ends in a dot or two instead of a name. -/
def endsInDots (path : String) : Bool :=
  (pieces path).getLast?.all fun piece => piece = "." ∨ piece = ".."

/-- The components of a path: single dots count only at the start of a relative
path. -/
def components (path : String) : List String :=
  match pieces path with
  | [] => []
  | first :: rest =>
    let others := rest.filter (· ≠ ".")
    if first = "." ∧ isAbsolute path then others else first :: others

/-- The path with given components. -/
def ofComponents (absolute : Bool) (components : List String) : String :=
  (if absolute then "/" else "") ++ "/".intercalate components

/-- A path seen from a directory: unchanged if it is absolute. -/
def join (directory path : String) : String :=
  if isAbsolute path then path
  else if directory = "" ∨ endsInSlash directory then directory ++ path
  else directory ++ "/" ++ path

/-- The path without its last component; none for the root and the empty
path. -/
def parent? (path : String) : Option String :=
  match components path with
  | [] => none
  | parts => some (ofComponents (isAbsolute path) parts.dropLast)

/-- The last component, unless it is a dot or two. -/
def fileName? (path : String) : Option String :=
  (components path).getLast?.filter fun name => name ≠ "." ∧ name ≠ ".."

/-- The file beside `path` whose name has the suffix added. -/
def sibling (path suffix : String) : String :=
  match fileName? path with
  | some name =>
    join (ofComponents (isAbsolute path) (components path).dropLast) (name ++ suffix)
  | none => join path suffix

/-- The slashes at the start of an absolute path: exactly two are kept, and
any other number counts as one. -/
def rootSlashes (path : String) : String :=
  if path.toList.take 2 = ['/', '/'] ∧ path.toList.take 3 ≠ ['/', '/', '/'] then "//" else "/"

/-- The path from the root, relative paths being seen from `directory`.  Dots
for the parent are kept, and so is a slash at the end. -/
def absolute (directory path : String) : String :=
  if path = "" then path
  else
    let parts := components path
    let parts := if isAbsolute path ∨ parts.head? ≠ some "." then parts else parts.tail
    let base := if isAbsolute path then rootSlashes path else directory
    let whole := parts.foldl join base
    if endsInSlash path then join whole "" else whole

end InstrumentBench.Path
