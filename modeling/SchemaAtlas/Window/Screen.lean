import SchemaAtlas.Window.Basic
/-!
# What the window shows

The texts around the canvas in the order in which they are painted, each with what
clicking on it does. A click on anything closes an open menu.
-/

namespace SchemaAtlas.Window

/-- A text on the screen. -/
structure Item where
  text : String
  /-- An error, painted in red. -/
  red : Bool := false
  /-- What a click on it does. -/
  event : Option Event := none

/-- A text that does nothing. -/
def label (text : String) : Item := { text }

/-- A text that does something. -/
def button (text : String) (event : Event) : Item := { text, event := some event }

/-- An error. -/
def warning (text : String) : Item := { text, red := true }

/-- An optional text. -/
def optionally {α : Type} (f : α → Item) : Option α → List Item
  | some a => [f a]
  | none => []

/-! ## The top bar and its menus -/

/-- The text of a failed load. -/
def loadError : String := "Error loading database schema"

/-- A menu's button; the button of the open menu only closes it. -/
def menuButton (w : Window) (text : String) (m : Menu) : Item :=
  if w.menu = some m then label text else button text (.openMenu m)

/-- The counts of the document. -/
def counts (d : Document) : String :=
  s!"T:{d.tables.size} R:{d.relationships.length} rev {d.revision.toNat}"

/-- The top bar. -/
def topBar (w : Window) : List Item :=
  [ label "Schema-Loom", w.menuButton "File" .file, w.menuButton "View" .view,
    button "Reset Camera" .resetView, button "Relationships" .toggleRelationships, button "Particles" .toggleParticles,
    label (counts w.scene.document) ] ++
  (if w.server.isRunning then [label ("API on " ++ w.settings.apiEndpoint)] else []) ++
  optionally warning w.serverError ++
  match w.load with
  | .failed _ => [warning loadError]
  | _ => []

/-- What an entry of a menu does to something that is visible or not. -/
def hideOrShow (visible : Bool) (what : String) : String := (if visible then "Hide " else "Show ") ++ what

/-- The open menu. -/
def menuItems (w : Window) : List Item :=
  match w.menu with
  | none => []
  | some .file =>
    [ button "Reload Schema" .reload, button "Ctrl+R" .reload, button "Preferences…" .openPreferences,
      button "Quit" .quit ]
  | some .view =>
    [ button "Reset View" .resetView, button "Ctrl+0" .resetView,
      button (hideOrShow w.scene.relationshipsVisible "Relationships") .toggleRelationships,
      button (hideOrShow w.scene.particlesVisible "Particles") .toggleParticles,
      button "Re-run Layout" .relayout,
      button (hideOrShow w.sidebar "Sidebar") .toggleSidebar ]

/-! ## The side panel -/

/-- One field in the side panel. -/
def fieldItems (f : Field) : List Item :=
  [label f.name, label f.type] ++ if f.isPrimary then [label "(PK)"] else []

/-- The description of the selected table. -/
def descriptionItems (i : Description) : List Item :=
  label i.name :: i.fields.flatMap fieldItems ++
  (if i.relations.isEmpty then []
    else label "Relationships" :: i.relations.map fun l => label l.text) ++
  [button "Edit Table…" (.openEditor i.name)]

/-- The side panel. -/
def sidePanel (w : Window) : List Item :=
  if !w.sidebar then []
  else label "Table" ::
    match w.scene.selectedTable with
    | none =>
      [label "Click a table to see its fields and relationships.", label "Double-click to edit."]
    | some name => ((w.scene.document.describe? name).map descriptionItems).getD []

/-! ## The windows -/

/-- A text field, or its hint while it is empty. -/
def fieldOr (hint text : String) : Item := label (if text.isEmpty then hint else text)

/-- The title of the edit window. -/
def editorTitle (d : Draft) : String := "Edit Table: " ++ d.tableName

/-- One row of the edit window. -/
def rowItems (r : DraftRow) (i : Nat) : List Item :=
  [fieldOr "Field name" r.name, fieldOr Draft.typeHint r.type, button "Remove" (.editDraft (.removeField i))]

/-- The edit window. Its last two buttons do nothing while the draft is being saved. -/
def editorItems (d : Draft) : List Item :=
  let ending (text : String) (e : Event) : Item := if d.saving then label text else button text e
  [label (editorTitle d), label "Table name:", label d.name, label "Field", label "Type", label "PK"] ++
  d.rows.zipIdx.flatMap (fun (r, i) => rowItems r i) ++
  [button "Add Field" (.editDraft .addField)] ++
  optionally warning d.status ++
  [ending "Save" .saveDraft, ending "Cancel" .closeDraft]

/-- The title of the preferences window. -/
def preferencesTitle : String := "Preferences"

/-- The preferences window. -/
def preferencesItems (w : Window) (p : Preferences) : List Item :=
  [ label preferencesTitle,
    label "Schema", label "Schema endpoint:", label p.values.schemaEndpoint,
    label "API key sent with requests (empty for none):", label p.key,
    label "Scene", label "Layout radius", label "Position jitter",
    label "Layout seed (empty for random):", label p.seed, label "Particles",
    label "Assistant", label "Open delay (ms)", label "Close delay (ms)", label "Call bar shift (px)",
    label "Embedded API",
    button "Serve the schema API from this app" (.editPreferences .toggleServing),
    label "Bind address:", label p.values.apiBindAddress, label "Port:",
    label "Schema source (.sql dump or .json document):", label p.source,
    label "API log directory (leave empty for OS temp):", label p.logFolder,
    button "Clear to default (OS temp)" (.editPreferences (.logFolder "")),
    label ("Default: " ++ Settings.usualLogFolder w.place.temp),
    label "Settings save directory:", label (Settings.folder w.place.environment) ] ++
  optionally warning p.status ++
  [button "Save" .savePreferences, button "Cancel" .closePreferences]

/-- The assistant. -/
def assistantItems (p : Panel) : List Item :=
  (if p.panel.contains "open" then
    button "Call" (.assistant (.engage 0)) :: if p.microphone.contains "open" then [label "Mic"] else []
  else []) ++
  [button (if p.button.contains "active" then "×" else "AI") (.assistant (.toggle 0))]

/-! ## The screen -/

/-- All texts around the canvas. -/
def items (w : Window) : List Item :=
  w.topBar ++ w.sidePanel ++ (w.preferences.map w.preferencesItems).getD [] ++
    (w.editor.map editorItems).getD [] ++ assistantItems w.assistant ++ optionally label w.notice ++
    w.menuItems

/-- The text in the middle of the canvas. -/
def canvasText? (w : Window) : Option String :=
  match w.load with
  | .loading => some "Loading database schema…"
  | .failed _ => some loadError
  | .ready => if w.scene.arena.groups.isEmpty then some "Schema has no tables" else none

/-- Clicks on one of the texts that read alike, counted from zero; `none` when it is not
on the screen. -/
def click (w : Window) (text : String) (nth : Nat) : Option Window :=
  ((w.items.filter (·.text = text))[nth]?).map fun i =>
    let closed := w.step .closeMenu
    match i.event with
    | some e => closed.step e
    | none => closed

/-- Closes the first window whose title starts so; `none` when there is none. -/
def closeWindow (w : Window) (title : String) : Option Window :=
  if w.preferences.isSome && preferencesTitle.startsWith title then
    some ((w.step .closeMenu).step .closePreferences)
  else if (w.editor.map fun d => (editorTitle d).startsWith title).getD false then
    some ((w.step .closeMenu).step .closeDraft)
  else none

end SchemaAtlas.Window
