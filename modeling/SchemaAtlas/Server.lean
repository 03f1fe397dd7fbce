import SchemaAtlas.Service
import SchemaAtlas.Settings
import SchemaAtlas.Source
import SchemaAtlas.Web.Listening
/-!
# The embedded server

Starts and stops the service that the settings describe. Starting loads the configured
source afresh; only once it is loaded does a server that is running already stop.
-/

namespace SchemaAtlas

/-- Why the server does not start. -/
inductive StartError
  | noSource
  | source (e : Source.Error)
  /-- The address cannot be listened on. -/
  | bind (address : String) (reason : Web.ListenError)

def StartError.message : StartError → String
  | .noSource => "no schema source configured for the API server"
  | .source e => e.message
  | .bind address reason => s!"API server bind failed on {address}: {reason.message}"

/-- The server: the service that is running, if any. -/
structure Server where
  running : Option Service := none

namespace Server

def isRunning (s : Server) : Bool := s.running.isSome

/-- Stops the service. -/
def stop (_ : Server) : Server := {}

/-- Starts the service of the settings, at a port that is `free` unless somebody else
listens there. -/
def start (s : Server) (cfg : Settings) (fs : Files) (free : Bool := true) :
    Except StartError Unit × Server :=
  match cfg.schemaSource with
  | none => (.error .noSource, s)
  | some path =>
    match Source.load fs path with
    | .error e => (.error (.source e), s)
    | .ok d =>
      match Web.listen cfg.apiBindAddress free with
      | .error e => (.error (.bind cfg.apiEndpoint e), s.stop)
      | .ok _ => (.ok (), { running := some { store := some d, key := cfg.apiKey } })

end Server
end SchemaAtlas
