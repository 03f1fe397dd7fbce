import SchemaAtlas.Document.Json
import SchemaAtlas.Files
import SchemaAtlas.Panel
import SchemaAtlas.Scene.Basic
/-!
# Settings

What the user can set: where the schema is fetched from, whether and how it is served,
how the scene is laid out and how the assistant panel moves. Settings are kept in a
JSON file in the user's configuration folder. A setting that the file leaves out has
its usual value.
-/

namespace SchemaAtlas

open Json (Value Record slot)

/-- The settings. -/
structure Settings where
  schemaEndpoint : String := "http://127.0.0.1:5000"
  apiEnabled : Bool := false
  apiBindAddress : String := "127.0.0.1"
  apiPort : UInt16 := 5000
  apiKey : Option String := none
  /-- The dump or document that is served. -/
  schemaSource : Option String := none
  /-- Where traffic is logged, if not in the usual folder. -/
  apiLogOverride : Option String := none
  layoutRadius : Float32 := 25
  layoutJitter : Float32 := 10
  layoutSeed : Option UInt64 := none
  particleCount : UInt64 := 1000
  panelOpenDelay : UInt64 := 10
  panelCloseDelay : UInt64 := 300
  callBarShift : Float32 := 20
deriving Inhabited

namespace Settings

/-! ## The JSON form -/

/-- A text, or `null`. -/
def textOrNull : Option String → Value
  | some s => .string s
  | none => .null

def toJson (s : Settings) : Value :=
  .object
    [ ("schema_endpoint", .string s.schemaEndpoint),
      ("api_enabled", .bool s.apiEnabled),
      ("api_bind_addr", .string s.apiBindAddress),
      ("api_port", .natural s.apiPort.toNat),
      ("api_key", textOrNull s.apiKey),
      ("schema_source", textOrNull s.schemaSource),
      ("api_log_override", textOrNull s.apiLogOverride),
      ("layout_radius", .real s.layoutRadius),
      ("layout_jitter", .real s.layoutJitter),
      ("layout_seed", match s.layoutSeed with
        | some n => .natural n.toNat
        | none => .null),
      ("particle_count", .natural s.particleCount.toNat),
      ("panel_open_delay_ms", .natural s.panelOpenDelay.toNat),
      ("panel_close_delay_ms", .natural s.panelCloseDelay.toNat),
      ("call_bar_shift", .real s.callBarShift) ]

def record : Record Settings where
  name := "AppSettings"
  start := {}
  slots :=
    [ slot "schema_endpoint" false Json.text fun x s => { s with schemaEndpoint := x },
      slot "api_enabled" false Json.bool fun x s => { s with apiEnabled := x },
      slot "api_bind_addr" false Json.text fun x s => { s with apiBindAddress := x },
      slot "api_port" false (Json.word 16 "u16") fun x s => { s with apiPort := .ofNat x },
      slot "api_key" false (Json.optional Json.text) fun x s => { s with apiKey := x },
      slot "schema_source" false (Json.optional (Json.textAs "path string")) fun x s =>
        { s with schemaSource := x },
      slot "api_log_override" false (Json.optional (Json.textAs "path string")) fun x s =>
        { s with apiLogOverride := x },
      slot "layout_radius" false Json.single fun x s => { s with layoutRadius := x },
      slot "layout_jitter" false Json.single fun x s => { s with layoutJitter := x },
      slot "layout_seed" false (Json.optional Json.word64) fun x s => { s with layoutSeed := x },
      slot "particle_count" false (Json.word 64 "usize") fun x s =>
        { s with particleCount := .ofNat x },
      slot "panel_open_delay_ms" false Json.word64 fun x s => { s with panelOpenDelay := x },
      slot "panel_close_delay_ms" false Json.word64 fun x s => { s with panelCloseDelay := x },
      slot "call_bar_shift" false Json.single fun x s => { s with callBarShift := x } ]

/-- Reads settings. -/
def parse (s : String) : Except Json.DecodeError Settings := Json.parse record.decode s

/-! ## What follows from the settings -/

/-- The address that the schema is served at. -/
def apiEndpoint (s : Settings) : String := s.apiBindAddress ++ ":" ++ Decimal.text s.apiPort.toNat

/-- The usual folder of the traffic log. -/
def usualLogFolder (temp : String) : String := Path.join (Path.join temp "Schema-Loom") "api-logs"

/-- The folder of the traffic log. -/
def logFolder (temp : String) (s : Settings) : String :=
  s.apiLogOverride.getD (usualLogFolder temp)

def sceneConfig (s : Settings) : Scene.Config where
  layout := ⟨s.layoutRadius, s.layoutJitter⟩
  seed := s.layoutSeed
  particleCount := s.particleCount.toNat

def panelTimings (s : Settings) : Panel.Timings where
  openDelay := s.panelOpenDelay.toNat
  closeDelay := s.panelCloseDelay.toNat
  callBarShift := s.callBarShift

/-! ## The settings file -/

/-- The environment variables that decide where settings are kept. -/
structure Environment where
  configHome : Option String := none
  home : Option String := none
deriving DecidableEq, Inhabited, Repr

/-- The folder of the settings file. -/
def folder (e : Environment) : String :=
  match e.configHome with
  | some c => Path.join c "Schema-Loom"
  | none => Path.join (Path.join (e.home.getD "~") ".config") "Schema-Loom"

/-- The name of the settings file. -/
def fileName : String := "settings.json"

/-- Why settings cannot be loaded. -/
inductive LoadError
  | file (e : FileError)
  | decode (e : Json.DecodeError)

/-- Loads the settings; without a file they have their usual values. -/
def load (e : Environment) (fs : Files) : Except LoadError Settings :=
  let path := Path.join (folder e) fileName
  if fs.has path then
    match fs.read path with
    | .error err => .error (.file err)
    | .ok text =>
      match parse text with
      | .error err => .error (.decode err)
      | .ok s => .ok s
  else .ok {}

/-- Saves the settings. -/
def save (s : Settings) (e : Environment) (fs : Files) : Except FileError Files :=
  fs.write (folder e) fileName s.toJson.pretty

end Settings
end SchemaAtlas
