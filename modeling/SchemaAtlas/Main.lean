import SchemaAtlas.Command
/-!
# The program

Reads the arguments, the files that they name and the user's settings, and runs the
command. No request leaves the machine: to the program, every endpoint is silent.
-/

namespace SchemaAtlas

/-- Adds what is at a path to a snapshot of files. -/
def Files.addFrom (fs : Files) (path : String) : IO Files := do
  try
    let bytes ← IO.FS.readBinFile path
    return fs.put path (String.fromUTF8? bytes)
  catch _ => return fs

/-- The user's settings, or the usual ones if they cannot be read. -/
def Settings.ofUser : IO Settings := do
  let env : Settings.Environment := ⟨← IO.getEnv "XDG_CONFIG_HOME", ← IO.getEnv "HOME"⟩
  let fs ← ({} : Files).addFrom (Path.join (Settings.folder env) Settings.fileName)
  match Settings.load env fs with
  | .ok s => return s
  | .error _ => return {}

end SchemaAtlas

open SchemaAtlas in
def main (args : List String) : IO UInt32 := do
  match Command.parse args with
  | .error e =>
    IO.eprintln e.message
    return 2
  | .ok c =>
    let files ← c.paths.foldlM Files.addFrom {}
    let o := c.run ⟨files, ← Settings.ofUser, .silent⟩
    IO.print o.out
    IO.eprint o.error
    return .ofNat o.code
