import SchemaAtlas.Document.Description
import SchemaAtlas.Draft
import SchemaAtlas.Scene.Arena
import SchemaAtlas.Scene.Particles
import SchemaAtlas.Space.Camera
import SchemaAtlas.Space.Layout
/-!
# The scene

A scene holds a schema document and everything that is drawn for it: a group for
every table, an edge for every relationship between two tables of the document, the
selected table, the particle cloud and the camera. A new document replaces all of it;
the selection survives when its table is still there.
-/

namespace SchemaAtlas

open SchemaAtlas.Random (Entropy Generator)
open Space

namespace Scene

/-- How a scene is laid out. Without a seed the heights differ from build to build. -/
structure Config where
  layout : Layout := {}
  seed : Option UInt64 := none
  particleCount : Nat := 1000
deriving Inhabited

/-- A line between the groups of a relationship's two tables. -/
structure Edge where
  /-- The place of the relationship in the document. -/
  relationship : Nat
  source : Nat
  target : Nat
  start : Vec3
  stop : Vec3
  visible : Bool

end Scene

open Scene in
/-- A scene. `generator` gives the heights of the next layout, `entropy` the generators that
are started without a seed. -/
structure Scene where
  config : Config
  document : Document
  arena : Arena
  edges : List Edge
  /-- The place of the selected group. -/
  selection : Option Nat
  relationshipsVisible : Bool
  particlesVisible : Bool
  particles : Particles
  camera : Camera
  generator : Generator
  entropy : Entropy

namespace Scene

/-- The generator of a seed, or a fresh one. -/
def generatorFor (seed : Option UInt64) (entropy : Entropy) : Generator × Entropy :=
  match seed with
  | some s => (.ofSeed s, entropy)
  | none => entropy.next

/-- A cloud from a fresh generator. -/
def freshParticles (count : Nat) (entropy : Entropy) : Particles × Entropy :=
  let (generator, entropy) := entropy.next
  ((Particles.new count generator).1, entropy)

/-- A scene without a schema. -/
def new (config : Config) (entropy : Entropy) : Scene :=
  let (particles, entropy) := freshParticles config.particleCount entropy
  let (generator, entropy) := generatorFor config.seed entropy
  { config, document := .empty, arena := {}, edges := [], selection := none
    relationshipsVisible := true, particlesVisible := true, particles
    camera := .initial, generator, entropy }

/-! ## Selection -/

/-- The selected table. -/
def selectedTable (s : Scene) : Option String :=
  s.selection.bind fun id => (s.arena.get? id).map Group.table

/-- The tables that are highlighted, in order. -/
def highlightedTables (s : Scene) : List String :=
  (s.arena.groups.filter Group.isHighlighted).map Group.table

/-- Takes the glow from the selected group. -/
def dim (s : Scene) : Scene :=
  match s.selection with
  | some id => { s with arena := s.arena.modify id (·.setGlow 0) }
  | none => s

/-- Selects the group at a place. -/
def selectId (s : Scene) (id : Nat) : Scene :=
  let s := s.dim
  { s with arena := s.arena.modify id (·.setGlow highlight), selection := some id }

/-- Selects a table, if there is a group for it. -/
def selectTable (s : Scene) (name : String) : Scene :=
  match s.arena.idOf? name with
  | some id => s.selectId id
  | none => s

/-- Whether there is a group for a table. -/
def hasTable (s : Scene) (name : String) : Bool := (s.arena.idOf? name).isSome

/-- Selects nothing. -/
def clearSelection (s : Scene) : Scene := { s.dim with selection := none }

/-- The table under a ray. -/
def tableAt (s : Scene) (r : Ray) : Option String :=
  (s.arena.pick r).bind fun h => (s.arena.get? h.group).map Group.table

/-- Selects the table under a ray; a miss keeps the selection. -/
def selectAt (s : Scene) (r : Ray) : Scene :=
  match s.arena.pick r with
  | some h => if (s.arena.get? h.group).isSome then s.selectId h.group else s
  | none => s

/-- A click along a ray: the table that it hits, if any, and the scene in which that is selected. -/
def click (s : Scene) (r : Ray) : Option String × Scene :=
  match s.arena.pick r with
  | none => (none, s)
  | some h =>
    match s.arena.get? h.group with
    | none => (none, s)
    | some g => (some g.table, s.selectId h.group)

/-! ## Building -/

/-- The groups of a document's tables, all at the origin. -/
def groupsOf (d : Document) : List Group :=
  d.tables.entries.zipIdx.map fun (e, i) => .ofTable e.1 e.2 (headerColor i)

/-- Puts the groups on the circle. -/
def layoutGroups (s : Scene) : Scene :=
  let (ps, generator) := s.config.layout.positions s.arena.size s.generator
  { s with arena := { s.arena with groups := s.arena.groups.zipWith Group.moveTo ps }, generator }

/-- The edge of a relationship whose two tables have groups. -/
def edge? (a : Arena) (visible : Bool) (index : Nat) (r : Relationship) : Option Edge := do
  let source ← a.idOf? r.fromTable
  let target ← a.idOf? r.toTable
  return ⟨index, source, target, .zero, .zero, visible⟩

/-- Draws an edge between the current positions of its groups. -/
def reattach (a : Arena) (e : Edge) : Edge :=
  match a.get? e.source, a.get? e.target with
  | some x, some y => { e with start := x.position, stop := y.position }
  | _, _ => e

/-- Draws all edges between the current positions. -/
def refreshEdges (s : Scene) : Scene := { s with edges := s.edges.map (reattach s.arena) }

/-- Replaces the schema: the arena is cleared, and the groups of the new tables are put into it one
after the other. With a seed, the heights start over from the generator that `start` gives for it. -/
def buildFrom (start : UInt64 → Generator) (s : Scene) (d : Document) : Scene :=
  let selected := s.selectedTable
  let generator := match s.config.seed with
    | some seed => start seed
    | none => s.generator
  let arena := (groupsOf d).foldl Arena.insert s.arena.clear
  let bare := { s with document := d, arena, edges := [], selection := none, generator }
  let placed := bare.layoutGroups
  let edges := d.relationships.zipIdx.filterMap fun (r, i) =>
    edge? placed.arena s.relationshipsVisible i r
  let built := { placed with edges }.refreshEdges
  match selected with
  | some name => built.selectTable name
  | none => built

/-- Replaces the schema. With a seed, the heights start over. -/
def build (s : Scene) (d : Document) : Scene := s.buildFrom .ofSeed d

/-- Lays the groups out again, with new heights. -/
def relayout (s : Scene) : Scene := s.layoutGroups.refreshEdges

/-- Changes the configuration. The layout changes with the next build; another number of
particles gives a new cloud, another seed starts its sequence. -/
def setConfig (s : Scene) (config : Config) : Scene :=
  let (particles, entropy) :=
    if config.particleCount = s.particles.size then (s.particles, s.entropy)
    else freshParticles config.particleCount s.entropy
  let (generator, entropy) :=
    if config.seed = s.config.seed then (s.generator, entropy) else generatorFor config.seed entropy
  { s with config, particles, generator, entropy }

/-! ## Loading, saving, editing -/

/-- Takes the outcome of a load; a failed load leaves an empty scene. -/
def finishLoad {ε : Type} (s : Scene) : Except ε Document → Scene
  | .ok d => s.build d
  | .error _ => s.build .empty

/-- The name under which an open draft is being saved. -/
def savingName? (editor : Option Draft) : Option String :=
  (editor.filter Draft.saving).map fun d => Text.trim d.name

/-- Takes the outcome of a save. A saved document is always shown. If its draft is still
open it is closed, and its table is selected and named. A failure, given by its text,
is noted on the draft. -/
def finishSave (s : Scene) (editor : Option Draft) :
    Except String Document → Scene × Option Draft × Option String
  | .ok d =>
    match savingName? editor with
    | some name => ((s.build d).selectTable name, none, some name)
    | none => (s.build d, editor, none)
  | .error message =>
    (s, editor.map fun d => if d.saving then { d with saving := false, status := some message } else d,
      none)

/-- Opens a draft of a table. -/
def openDraft (s : Scene) (name : String) : Option Draft :=
  (s.document.table? name).map fun t => .ofTable name t s.document.revision

/-! ## Switches and frames -/

/-- Shows or hides all edges. -/
def toggleRelationships (s : Scene) : Scene :=
  let visible := !s.relationshipsVisible
  { s with relationshipsVisible := visible, edges := s.edges.map fun e => { e with visible } }

/-- Shows or hides the particle cloud. -/
def toggleParticles (s : Scene) : Scene := { s with particlesVisible := !s.particlesVisible }

/-- Changes the camera. -/
def mapCamera (s : Scene) (f : Camera → Camera) : Scene := { s with camera := f s.camera }

/-- One frame: the cloud moves while it is visible, and the camera takes up its motion. -/
def tick (s : Scene) (ms : Float) : Scene :=
  { s with particles := if s.particlesVisible then s.particles.advance ms else s.particles
           camera := s.camera.update }

end Scene
end SchemaAtlas
