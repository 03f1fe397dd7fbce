import SchemaAtlas.Client
import SchemaAtlas.Document.Description
import SchemaAtlas.Settings
import SchemaAtlas.Source
/-!
# The command line

`import` turns a dump into a JSON document, `fetch` shows the schema of an endpoint, and
`info` shows one table of an endpoint or of a dump.
-/

namespace SchemaAtlas

/-- What the command line asks for. -/
inductive Command
  | importDump (file : String) (compact : Bool)
  | fetch (endpoint key : Option String) (json : Bool)
  | info (table : String) (endpoint key dump : Option String)
  | help (text : String)
deriving DecidableEq, Repr

namespace Command

/-! ## Reading the arguments -/

/-- Why the arguments are not understood. -/
inductive UsageError
  | noCommand
  | unknownCommand (name : String)
  | unexpected (argument : String)
  | noValue (option : String)
  | repeated (option : String)
  | missing (argument : String)
  | conflict (first second : String)
deriving DecidableEq, Repr

def UsageError.message : UsageError → String
  | .noCommand => "error: 'schema-cli' requires a subcommand but one was not provided"
  | .unknownCommand name => s!"error: unrecognized subcommand '{name}'"
  | .unexpected argument => s!"error: unexpected argument '{argument}' found"
  | .noValue option => s!"error: a value is required for '--{option}' but none was supplied"
  | .repeated option => s!"error: the argument '--{option}' cannot be used multiple times"
  | .missing argument => s!"error: the following required arguments were not provided: <{argument}>"
  | .conflict first second => s!"error: the argument '--{first}' cannot be used with '--{second}'"

/-- Which arguments a command takes. -/
structure Form where
  name : String
  about : String
  /-- The argument without a name, if there is one. -/
  positional : Option String := none
  /-- Options with a value: name, name of the value, and what they are for. -/
  options : List (String × String × String) := []
  /-- Options without a value. -/
  flags : List (String × String) := []

/-- The arguments as far as they are read. -/
structure Given where
  positional : Option String := none
  options : List (String × String) := []
  flags : List String := []

/-- An argument that is looked up as an option: a hyphen and more. -/
def isOption (arg : String) : Bool := arg.startsWith "-" && arg ≠ "-"

/-- Splits the name of a long option from a value after an equals sign. -/
def splitOption (arg : String) : String × Option String :=
  let cs := arg.toList.drop 2
  match cs.dropWhile (· ≠ '=') with
  | _ :: v => (String.ofList (cs.takeWhile (· ≠ '=')), some (String.ofList v))
  | [] => (String.ofList cs, none)

/-- Takes an argument without a name. -/
def givePositional (f : Form) (g : Given) (arg : String) : Except UsageError Given :=
  if f.positional.isSome && g.positional.isNone then .ok { g with positional := some arg }
  else .error (.unexpected arg)

/-- Takes the value of an option, once. -/
def giveOption (g : Given) (name value : String) : Except UsageError Given :=
  if (g.options.lookup name).isSome then .error (.repeated name)
  else .ok { g with options := (name, value) :: g.options }

/-- Reads the arguments of a command; `none` when help is asked for. After two hyphens
no argument has a name. -/
def giveAll (f : Form) : (named : Bool) → Given → List String → Except UsageError (Option Given)
  | _, g, [] => .ok (some g)
  | false, g, arg :: rest => do giveAll f false (← givePositional f g arg) rest
  | true, g, arg :: rest =>
    if arg = "--" then giveAll f false g rest
    else if arg.startsWith "--" then
      let (name, value) := splitOption arg
      if name = "help" && value.isNone then .ok none
      else if (f.flags.lookup name).isSome then
        if value.isSome then .error (.unexpected arg)
        else if g.flags.contains name then .error (.repeated name)
        else giveAll f true { g with flags := name :: g.flags } rest
      else if (f.options.lookup name).isSome then
        match value with
        | some v => do giveAll f true (← giveOption g name v) rest
        | none =>
          match rest with
          | v :: more =>
            if isOption v then .error (.noValue name)
            else do giveAll f true (← giveOption g name v) more
          | [] => .error (.noValue name)
      else .error (.unexpected arg)
    else if isOption arg then
      if arg.startsWith "-h" then .ok none else .error (.unexpected arg)
    else do giveAll f true (← givePositional f g arg) rest

def endpointOption : String × String × String :=
  ("endpoint", "URL", "Schema endpoint (defaults to the one in the app settings)")

def keyOption : String × String × String :=
  ("api-key", "KEY", "API key to send as X-API-Key header")

def importForm : Form where
  name := "import"
  about := "Convert a SQL dump into a schema document (JSON on stdout)"
  positional := some "FILE.sql"
  flags := [("compact", "Single-line JSON")]

def fetchForm : Form where
  name := "fetch"
  about := "Fetch the schema document from a running endpoint"
  options := [endpointOption, keyOption]
  flags := [("json", "Print the whole document as JSON")]

def infoForm : Form where
  name := "info"
  about := "Show one table's fields and relationships"
  positional := some "table"
  options := [endpointOption, keyOption, ("sql", "FILE.sql", "Read the schema from a SQL dump instead")]

/-! ## Help -/

/-- A text filled with blanks up to a width. -/
def padRight (width : Nat) (s : String) : String :=
  s ++ String.ofList (List.replicate (width - s.length) ' ')

/-- A text with blanks in front up to a width. -/
def padLeft (width : Nat) (s : String) : String :=
  String.ofList (List.replicate (width - s.length) ' ') ++ s

/-- Two columns, the second one aligned. -/
def columns (rows : List (String × String)) : String :=
  let width := (rows.map (·.1.length)).foldl max 0
  String.join (rows.map fun (a, b) => "  " ++ padRight width a ++ "  " ++ b ++ "\n")

/-- The help of a command. -/
def Form.help (f : Form) : String :=
  let arguments := match f.positional with
    | some p => "\nArguments:\n  <" ++ p ++ ">  \n"
    | none => ""
  let usage := match f.positional with
    | some p => " <" ++ p ++ ">"
    | none => ""
  f.about ++ "\n\nUsage: schema-cli " ++ f.name ++ " [OPTIONS]" ++ usage ++ "\n" ++ arguments ++
    "\nOptions:\n" ++
    columns (f.options.map (fun (n, v, h) => ("    --" ++ n ++ " <" ++ v ++ ">", h)) ++
      f.flags.map (fun (n, h) => ("    --" ++ n, h)) ++ [("-h, --help", "Print help")])

def helpAbout : String := "Print this message or the help of the given subcommand(s)"

/-- The help of the command that prints help. -/
def helpOfHelp : String :=
  helpAbout ++ "\n\nUsage: schema-cli help [COMMAND]...\n\nArguments:\n" ++
    columns [("[COMMAND]...", "Print help for the subcommand(s)")]

/-- The help of all commands. -/
def overview : String :=
  "Schema-Loom CLI: import SQL dumps and inspect a served schema\n\n" ++
    "Usage: schema-cli <COMMAND>\n\nCommands:\n" ++
    columns ([importForm, fetchForm, infoForm].map (fun f => (f.name, f.about)) ++
      [("help", helpAbout)]) ++
    "\nOptions:\n" ++ columns [("-h, --help", "Print help")]

/-! ## Commands -/

/-- The command of the arguments of `import`. -/
def ofImport (g : Given) : Except UsageError Command :=
  match g.positional with
  | some file => .ok (.importDump file (g.flags.contains "compact"))
  | none => .error (.missing "FILE.sql")

/-- The command of the arguments of `fetch`. -/
def ofFetch (g : Given) : Except UsageError Command :=
  .ok (.fetch (g.options.lookup "endpoint") (g.options.lookup "api-key") (g.flags.contains "json"))

/-- The command of the arguments of `info`. -/
def ofInfo (g : Given) : Except UsageError Command :=
  match g.positional with
  | none => .error (.missing "table")
  | some table =>
    let endpoint := g.options.lookup "endpoint"
    let dump := g.options.lookup "sql"
    if endpoint.isSome && dump.isSome then .error (.conflict "endpoint" "sql")
    else .ok (.info table endpoint (g.options.lookup "api-key") dump)

/-- Reads the arguments of one command. -/
def read (f : Form) (make : Given → Except UsageError Command) (args : List String) :
    Except UsageError Command := do
  match ← giveAll f true {} args with
  | some g => make g
  | none => return .help f.help

/-- The help that is asked for by its own command. No command has commands of its own. -/
def readHelp : List String → Except UsageError Command
  | [] => .ok (.help overview)
  | name :: more =>
    let known := ("help", helpOfHelp) :: [importForm, fetchForm, infoForm].map fun f => (f.name, f.help)
    match known.lookup name, more with
    | none, _ => .error (.unknownCommand name)
    | some text, [] => .ok (.help text)
    | some _, other :: _ => .error (.unknownCommand other)

/-- Reads the arguments. -/
def parse : List String → Except UsageError Command
  | [] => .error .noCommand
  | "import" :: args => read importForm ofImport args
  | "fetch" :: args => read fetchForm ofFetch args
  | "info" :: args => read infoForm ofInfo args
  | "help" :: args => readHelp args
  | "--help" :: _ => .ok (.help overview)
  | name :: _ =>
    if name.startsWith "-h" then .ok (.help overview)
    else if isOption name then .error (.unexpected name)
    else .error (.unknownCommand name)

/-- The files that a command reads. -/
def paths : Command → List String
  | .importDump file _ => [file]
  | .info _ _ _ (some file) => [file]
  | _ => []

/-! ## Running -/

/-- What a command prints, and the code it ends with. -/
structure Output where
  code : Nat := 0
  out : String := ""
  error : String := ""
deriving DecidableEq, Repr

/-- What a command works with. -/
structure Setting where
  files : Files
  settings : Settings
  network : Web.Network

/-- Ends with a code and a message. -/
def failure (code : Nat) (message : String) : Output := { code, error := message ++ "\n" }

/-- The document of a dump. -/
def loadDump (s : Setting) (file : String) : Except Output Document :=
  match Source.loadDump s.files file with
  | .ok d => .ok d
  | .error e => .error (failure 1 s!"Failed to import {file}: {e.fullMessage}")

/-- The document of an endpoint. What the arguments leave out comes from the settings. -/
def loadEndpoint (s : Setting) (endpoint key : Option String) : Except Output Document :=
  let endpoint := endpoint.getD s.settings.schemaEndpoint
  match Client.new endpoint (key.or s.settings.apiKey) with
  | .error e => .error (failure 1 (FetchError.endpoint e).message)
  | .ok c =>
    match c.fetch s.network with
    | .ok d => .ok d
    | .error e =>
      .error (failure 2 (s!"Failed to fetch schema from {endpoint}: {e.message}\n" ++
        "Hint: start Schema-Loom with the API enabled, or pass --endpoint."))

/-- Lines of text. -/
def unlines (ls : List String) : String := String.join (ls.map (· ++ "\n"))

/-- A table in the summary of a document. -/
def summaryLine (name : String) (t : Table) : String :=
  let keys := (t.fields.filter (·.isPrimary)).map (·.name)
  "  " ++ padRight 24 name ++ " " ++ padLeft 3 (Decimal.text t.fields.length) ++ " fields  pk: " ++
    if keys.isEmpty then "-" else ", ".intercalate keys

/-- The summary of a document. -/
def summary (d : Document) : String :=
  unlines (s!"{d.tables.size} tables, {d.relationships.length} relationships (revision {d.revision.toNat})" ::
    d.tables.entries.map (fun e => summaryLine e.1 e.2) ++
    d.relationships.map fun r => s!"  {r.fromTable}.{r.fromField} -> {r.toTable}.{r.toField}")

/-- The description of a table. -/
def description (i : Description) : String :=
  unlines (i.name ::
    i.fields.map (fun f =>
      "  " ++ padRight 24 f.name ++ " " ++ f.type ++ if f.isPrimary then " (PK)" else "") ++
    if i.relations.isEmpty then [] else "Relationships" :: i.relations.map ("  " ++ ·.text))

/-- Shows one table. -/
def showTable (d : Document) (table : String) : Output :=
  match d.describe? table with
  | some i => { out := description i }
  | none =>
    let known := ", ".intercalate d.tableNames
    failure 4 s!"no table named '{table}' (known: {known})"

/-- The document as JSON, on one line or on several. -/
def showJson (d : Document) (compact : Bool) : Output :=
  { out := (if compact then d.toJson.compact else d.toJson.pretty) ++ "\n" }

/-- Shows what `f` makes of a document, or why there is none. -/
def onDocument (d : Except Output Document) (f : Document → Output) : Output :=
  match d with
  | .ok d => f d
  | .error o => o

/-- Runs a command. -/
def run (s : Setting) : Command → Output
  | .importDump file compact => onDocument (loadDump s file) (showJson · compact)
  | .fetch endpoint key json =>
    onDocument (loadEndpoint s endpoint key) fun d => if json then showJson d false else { out := summary d }
  | .info table endpoint key dump =>
    onDocument (match dump with
      | some file => loadDump s file
      | none => loadEndpoint s endpoint key) (showTable · table)
  | .help text => { out := text }

end Command
end SchemaAtlas
