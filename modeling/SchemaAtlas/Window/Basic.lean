import SchemaAtlas.Client
import SchemaAtlas.Server
import SchemaAtlas.Window.Preferences
/-!
# The window

The window shows the scene and edits tables and preferences. The schema is fetched and
tables are saved by calls that are answered later. Only the answer to the latest fetch
counts. While a save is under way its draft can neither be closed nor replaced, and no
second save is started.
-/

namespace SchemaAtlas

namespace Window

/-- How far the schema is loaded. -/
inductive LoadState
  | loading
  | ready
  | failed (reason : String)
deriving DecidableEq, Repr

/-- A fetch that is not answered yet. -/
structure FetchCall where
  number : Nat
  endpoint : String
  key : Option String
deriving DecidableEq, Repr

/-- A save that is not answered yet. -/
structure SaveCall where
  number : Nat
  endpoint : String
  key : Option String
  table : String
  update : TableUpdate
deriving DecidableEq, Repr

/-- The menus of the top bar. -/
inductive Menu
  | file
  | view
deriving DecidableEq, Repr

/-- Where the window finds its folders. -/
structure Place where
  environment : Settings.Environment
  /-- The folder for temporary files. -/
  temp : String
deriving Repr

end Window

open Window in
/-- The state of the window. -/
structure Window where
  place : Place
  files : Files
  server : Server := {}
  settings : Settings
  scene : Scene
  assistant : Panel
  load : LoadState := .loading
  fetch : Option FetchCall := none
  save : Option SaveCall := none
  /-- How many calls were started. -/
  calls : Nat := 0
  editor : Option Draft := none
  preferences : Option Preferences := none
  sidebar : Bool := true
  menu : Option Menu := none
  /-- The latest notice. -/
  notice : Option String := none
  /-- Why the server did not start. -/
  serverError : Option String := none
  /-- Whether the window was asked to close. -/
  closing : Bool := false

namespace Window

/-! ## Loading -/

/-- Starts a fetch, in place of one that is still under way. -/
def reload (w : Window) : Window :=
  { w with load := .loading, calls := w.calls + 1
           fetch := some ⟨w.calls + 1, w.settings.schemaEndpoint, w.settings.apiKey⟩ }

/-- A new window, which starts to load. -/
def new (place : Place) (files : Files) (server : Server) (settings : Settings) (entropy : Random.Entropy) :
    Window :=
  reload
    { place, files, server, settings, scene := .new settings.sceneConfig entropy
      assistant := { timings := settings.panelTimings } }

/-- Takes the answer to a fetch, given by its text if it failed. A failure leaves nothing
to edit, but a draft that is being saved stays. -/
def takeFetch (w : Window) (r : Except String Document) : Window :=
  let scene := w.scene.finishLoad r
  match r with
  | .ok _ => { w with fetch := none, scene, load := .ready }
  | .error e =>
    { w with fetch := none, scene, load := .failed e
             editor := if w.save.isNone then none else w.editor }

/-- The answer to a fetch arrives. -/
def fetched (w : Window) (number : Nat) (r : Except String Document) : Window :=
  match w.fetch with
  | some c => if c.number = number then w.takeFetch r else w
  | none => w

/-! ## Editing -/

/-- Opens a draft of a table, unless a save is under way. -/
def openEditor (w : Window) (table : String) : Window :=
  if w.save.isSome then { w with notice := some "A save is still in progress" }
  else { w with editor := (w.scene.openDraft table).or w.editor }

/-- Sends the draft, or notes on it why it cannot be sent. -/
def sendDraft (w : Window) (d : Draft) : Window :=
  match d.toUpdate with
  | .ok u =>
    { w with editor := some { d with status := none, saving := true }, calls := w.calls + 1
             save := some ⟨w.calls + 1, w.settings.schemaEndpoint, w.settings.apiKey, d.tableName, u⟩ }
  | .error e => { w with editor := some { d with status := some e.message } }

/-- The draft, unless it is being saved. -/
def idleDraft? (w : Window) : Option Draft := w.editor.filter (!·.saving)

/-- Saves the draft, unless it is being saved already. -/
def saveDraft (w : Window) : Window :=
  match w.idleDraft? with
  | some d => w.sendDraft d
  | none => w

/-- Closes the draft, unless it is being saved. -/
def closeDraft (w : Window) : Window :=
  match w.idleDraft? with
  | some _ => { w with editor := none }
  | none => w

/-- Takes the answer to a save. -/
def takeSave (w : Window) (r : Except String Document) : Window :=
  let (scene, editor, name) := w.scene.finishSave w.editor r
  { w with save := none, scene, editor
           notice := (name.map ("Saved table " ++ ·)).or w.notice
           load := match r with
             | .ok _ => .ready
             | .error _ => w.load }

/-- The answer to a save arrives. -/
def saved (w : Window) (number : Nat) (r : Except String Document) : Window :=
  match w.save with
  | some c => if c.number = number then w.takeSave r else w
  | none => w

/-! ## Preferences -/

/-- The part of the settings that the server depends on. -/
def serverPart (s : Settings) : Bool × String × UInt16 × Option String :=
  (s.apiEnabled, s.apiBindAddress, s.apiPort, s.apiKey)

/-- Whether two settings describe the same server. -/
def sameServer (a b : Settings) : Bool :=
  serverPart a == serverPart b &&
    match a.schemaSource, b.schemaSource with
    | some p, some q => Path.same p q
    | p, q => p == q

/-- A server that has loaded its source makes the folder of its log, if it can. -/
def keepLog (w : Window) : Window :=
  match w.files.makeFolders (w.settings.logFolder w.place.temp) with
  | .ok (files, _) => { w with files }
  | .error _ => w

/-- Stops the server and starts it again if the settings say so. -/
def restartServer (w : Window) : Window :=
  if w.settings.apiEnabled then
    let (r, server) := w.server.stop.start w.settings w.files
    let w := { w with server }
    match r with
    | .ok _ => { w.keepLog with serverError := none }
    | .error (.bind address reason) =>
      { w.keepLog with serverError := some (StartError.bind address reason).message }
    | .error e => { w with serverError := some e.message }
  else { w with server := w.server.stop, serverError := none }

/-- Takes over new settings. What depends on a changed setting starts over. -/
def adopt (w : Window) (s : Settings) : Window :=
  let old := w.settings
  let w := { w with settings := s, scene := w.scene.setConfig s.sceneConfig
                    assistant := w.assistant.setTimings s.panelTimings
                    preferences := none, notice := some "Preferences saved" }
  if sameServer old s then
    if old.schemaEndpoint = s.schemaEndpoint then w else w.reload
  else w.restartServer.reload

/-- Notes why the preferences could not be saved. -/
def refusePreferences (w : Window) (p : Preferences) (message : String) : Window :=
  { w with preferences := some { p with status := some message } }

/-- Saves the preferences and takes them over. -/
def savePreferences (w : Window) : Window :=
  match w.preferences with
  | none => w
  | some p =>
    match p.settings? with
    | none => w.refusePreferences p Preferences.seedMessage
    | some s =>
      match s.save w.place.environment w.files with
      | .error e => w.refusePreferences p ("Failed to save preferences: " ++ e.message)
      | .ok files => { w with files }.adopt s

/-! ## Events -/

/-- What can happen to a window. Times are in milliseconds. -/
inductive Event
  | reload
  | fetched (number : Nat) (r : Except FetchError Document)
  /-- The fetch ended without an answer. -/
  | fetchLost (number : Nat)
  | openEditor (table : String)
  | editDraft (e : Draft.Edit)
  | saveDraft
  | closeDraft
  | saved (number : Nat) (r : Except SaveError Document)
  /-- The save ended without an answer. -/
  | saveLost (number : Nat)
  | select (table : String)
  | moveCamera (f : Space.Camera → Space.Camera)
  | resetView
  | toggleRelationships
  | toggleParticles
  | relayout
  | toggleSidebar
  | openMenu (m : Menu)
  | closeMenu
  | openPreferences
  | editPreferences (e : Preferences.Edit)
  | savePreferences
  | closePreferences
  | assistant (e : Panel.Event)
  | quit
  | frame (ms : Float)

/-- The notice after something is shown or hidden. -/
def visibilityNotice (what : String) (visible : Bool) : Option String :=
  some (what ++ if visible then " shown" else " hidden")

/-- The window after an event. -/
def step (w : Window) : Event → Window
  | .reload => w.reload
  | .fetched number r => w.fetched number (r.mapError FetchError.message)
  | .fetchLost number => w.fetched number (.error "schema fetch worker exited")
  | .openEditor table => w.openEditor table
  | .editDraft e => { w with editor := w.editor.map (·.apply e) }
  | .saveDraft => w.saveDraft
  | .closeDraft => w.closeDraft
  | .saved number r => w.saved number (r.mapError SaveError.message)
  | .saveLost number => w.saved number (.error (SaveError.rejected "save worker exited").message)
  | .select table => { w with scene := w.scene.selectTable table }
  | .moveCamera f => { w with scene := w.scene.mapCamera f }
  | .resetView => { w with scene := w.scene.mapCamera fun _ => .initial }
  | .toggleRelationships =>
    let scene := w.scene.toggleRelationships
    { w with scene, notice := visibilityNotice "Relationships" scene.relationshipsVisible }
  | .toggleParticles =>
    let scene := w.scene.toggleParticles
    { w with scene, notice := visibilityNotice "Particles" scene.particlesVisible }
  | .relayout => { w with scene := w.scene.relayout }
  | .toggleSidebar => { w with sidebar := !w.sidebar }
  | .openMenu m => { w with menu := some m }
  | .closeMenu => { w with menu := none }
  | .openPreferences => { w with preferences := some (.ofSettings w.settings) }
  | .editPreferences e => { w with preferences := w.preferences.map (·.apply e) }
  | .savePreferences => w.savePreferences
  | .closePreferences => { w with preferences := none }
  | .assistant e => { w with assistant := w.assistant.act e }
  | .quit => { w with closing := true }
  | .frame ms => { w with scene := w.scene.tick ms }

/-! ## Answers -/

/-- Answers the fetch that is under way. -/
def answerFetch (n : Web.Network) (w : Window) : Window :=
  match w.fetch with
  | some c => w.step (.fetched c.number (fetchFrom n c.endpoint c.key))
  | none => w

/-- Answers the save that is under way. -/
def answerSave (n : Web.Network) (w : Window) : Window :=
  match w.save with
  | some c => w.step (.saved c.number (saveTo n c.endpoint c.key c.table c.update))
  | none => w

/-- Lets the assistant finish what it deferred. -/
def finishAssistant (w : Window) : Window :=
  { w with assistant := (w.assistant.advance ((w.assistant.pending.map (·.due)).foldl max 0)).1 }

/-- The window once every call is answered and every change has taken its time. -/
def settle (n : Web.Network) (w : Window) : Window :=
  let w := ((w.answerFetch n).answerSave n).finishAssistant
  { w with preferences := w.preferences.map Preferences.shown }

end Window
end SchemaAtlas
