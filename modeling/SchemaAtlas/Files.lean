/-!
# Files

A snapshot of the files that the program reads and writes. A path is followed name by
name, from the root or from the folder that the program runs in; it leads to a plain
file, to a folder, or to nothing.
-/

namespace SchemaAtlas

/-- Why a file cannot be read or written. -/
inductive FileError
  | notFound
  | notText
  | exists
  | notFolder
  | isFolder
  | nameTooLong
deriving DecidableEq, Repr

def FileError.message : FileError → String
  | .notFound => "No such file or directory (os error 2)"
  | .notText => "stream did not contain valid UTF-8"
  | .exists => "File exists (os error 17)"
  | .notFolder => "Not a directory (os error 20)"
  | .isFolder => "Is a directory (os error 21)"
  | .nameTooLong => "File name too long (os error 36)"

namespace Path

/-- Appends a name to a folder; a path from the root stands alone. -/
def join (folder name : String) : String :=
  if folder.isEmpty || name.startsWith "/" then name
  else if folder.endsWith "/" then folder ++ name
  else folder ++ "/" ++ name

/-- Cuts a text at every slash. -/
def cut : List Char → List (List Char)
  | [] => [[]]
  | c :: cs =>
    if c = '/' then [] :: cut cs
    else match cut cs with
      | [] => [[c]]
      | p :: ps => (c :: p) :: ps

/-- All that stands between slashes. -/
def names (path : String) : List String := (cut path.toList).map String.ofList

/-- The names along a path; empty names and `.` do not count. -/
def parts (path : String) : List String := (names path).filter fun p => p != "" && p != "."

/-- The longest name, in bytes. -/
def longestName : Nat := 255

/-- The longest path, in bytes. -/
def longestPath : Nat := 4095

/-- Whether two paths have the same names in the same order, from the same start. A
leading `.` counts. -/
def same (a b : String) : Bool :=
  let key (p : String) := (p.startsWith "/", p == "." || p.startsWith "./", parts p)
  key a == key b

/-- The last name of a path. -/
def fileName? (path : String) : Option String :=
  match (parts path).getLast? with
  | some ".." => none
  | r => r

/-- What follows the last point of the file name, unless the name starts there. -/
def extension? (path : String) : Option String := do
  let name ← fileName? path
  let cs := name.toList.reverse
  let ext := cs.takeWhile (· != '.')
  match cs.dropWhile (· != '.') with
  | _ :: _ :: _ => some (String.ofList ext.reverse)
  | _ => none

end Path

/-- What stands at a place. -/
inductive Node
  /-- A plain file; one without content is not text. -/
  | plain (content : Option String)
  | folder
deriving DecidableEq, Repr

/-- Files and folders by their places, each the names from the root on. -/
structure Files where
  plain : List (List String × Option String) := []
  folders : List (List String) := []
  /-- The folder that the program runs in. -/
  here : List String := []
deriving DecidableEq, Inhabited, Repr

namespace Files

/-- What is at a place. A folder is there if it was made, or if something is in it. -/
def node? (fs : Files) (place : List String) : Option Node :=
  match fs.plain.lookup place with
  | some content => some (.plain content)
  | none =>
    let isAbove (p : List String) : Bool := place.isPrefixOf p
    if place.isEmpty || isAbove fs.here || fs.folders.any isAbove || fs.plain.any (isAbove ·.1) then
      some .folder
    else none

/-- Where a path starts. -/
def start (fs : Files) (path : String) : List String :=
  if path.startsWith "/" then [] else fs.here

/-- Follows one name. It leads somewhere from folders only; an empty name and `.` stay
there, and `..` goes to the folder above. -/
def follow (fs : Files) (place : List String) (name : String) : Except FileError (List String) :=
  match fs.node? place with
  | none => .error .notFound
  | some (.plain _) => .error .notFolder
  | some .folder =>
    if name == "" || name == "." then .ok place
    else if name == ".." then .ok place.dropLast
    else if Path.longestName < name.utf8ByteSize then .error .nameTooLong
    else .ok (place ++ [name])

/-- The place that a path leads to. -/
def locate (fs : Files) (path : String) : Except FileError (List String) :=
  if path.isEmpty then .error .notFound
  else if Path.longestPath < path.utf8ByteSize then .error .nameTooLong
  else (Path.names path).foldlM fs.follow (fs.start path)

/-- Whether there is anything at a path. -/
def has (fs : Files) (path : String) : Bool :=
  match fs.locate path with
  | .ok place => (fs.node? place).isSome
  | .error _ => false

/-- Reads a text. -/
def read (fs : Files) (path : String) : Except FileError String := do
  let place ← fs.locate path
  match fs.node? place with
  | some (.plain (some s)) => .ok s
  | some (.plain none) => .error .notText
  | some .folder => .error .isFolder
  | none => .error .notFound

/-- Puts a plain file at a place, instead of what is there. -/
def putAt (fs : Files) (place : List String) (content : Option String) : Files :=
  { fs with plain := (place, content) :: fs.plain.filter (!place.isPrefixOf ·.1)
            folders := fs.folders.filter (!place.isPrefixOf ·) }

/-- Makes one folder, if nothing is there. -/
def makeAt (fs : Files) (place : List String) : Files :=
  if (fs.node? place).isSome then fs else { fs with folders := place :: fs.folders }

/-- Makes the folders along a path that are not there, and gives the place of the last. -/
def makeFolders (fs : Files) (path : String) : Except FileError (Files × List String) := do
  if Path.longestPath < path.utf8ByteSize then throw .nameTooLong
  let (fs, place) ← (Path.parts path).foldlM (fun (fs, place) name => do
    let next ← fs.follow place name
    return (fs.makeAt next, next)) (fs, fs.start path)
  match fs.node? place with
  | some (.plain _) => .error .exists
  | _ => .ok (fs, place)

/-- Puts a plain file at a path. The folders on the way are made. -/
def put (fs : Files) (path : String) (content : Option String) : Files :=
  let (fs, place) := (Path.parts path).foldl (fun (fs, place) name =>
    let fs := fs.makeAt place
    (fs, if name == ".." then place.dropLast else place ++ [name])) (fs, fs.start path)
  fs.putAt place content

/-- Writes a text into a folder that is made if it is not there. -/
def write (fs : Files) (folder name text : String) : Except FileError Files := do
  let (fs, place) ← fs.makeFolders folder
  if Path.longestPath < (Path.join folder name).utf8ByteSize then throw .nameTooLong
  let place ← fs.follow place name
  if fs.node? place = some .folder then .error .isFolder
  else .ok (fs.putAt place (some text))

end Files
end SchemaAtlas
