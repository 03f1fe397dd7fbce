import SchemaAtlas.Document.Json
import SchemaAtlas.Dump.Statement
import SchemaAtlas.Files
/-!
# Schema sources

A served schema comes from a file: a dump if the file's extension says so, else a JSON
document.
-/

namespace SchemaAtlas.Source

/-- Why a source cannot be loaded. -/
inductive Error
  /-- The file at this path cannot be read. -/
  | file (path : String) (cause : FileError)
  | decode (e : Document.Unreadable)

/-- What is reported, the cause of a file error apart. -/
def Error.message : Error → String
  | .file path _ => "reading " ++ path
  | .decode e => e.message

/-- What is reported, with the cause. -/
def Error.fullMessage : Error → String
  | .file path cause => "reading " ++ path ++ ": " ++ cause.message
  | .decode e => e.message

/-- Whether a path names a dump. -/
def isDump (path : String) : Bool :=
  match Path.extension? path with
  | some ext => ext.map Char.toLower == "sql"
  | none => false

/-- Reads a file. -/
def text (fs : Files) (path : String) : Except Error String :=
  match fs.read path with
  | .ok s => .ok s
  | .error e => .error (.file path e)

/-- Loads a dump. -/
def loadDump (fs : Files) (path : String) : Except Error Document :=
  (text fs path).map Dump.document

/-- Loads a dump or a document. -/
def load (fs : Files) (path : String) : Except Error Document :=
  if isDump path then loadDump fs path
  else do
    let s ← text fs path
    (Document.read s).mapError .decode

end SchemaAtlas.Source
