import SchemaAtlas.Scene.Basic
/-!
# Runs of a scene

Everything that can happen to a scene, and the scene after it.
-/

namespace SchemaAtlas.Scene

/-- What can happen to a scene. -/
inductive Event
  | build (d : Document)
  /-- A load ended, perhaps in failure. -/
  | finishLoad (r : Except String Document)
  /-- A save ended while the given draft was open. -/
  | finishSave (editor : Option Draft) (r : Except String Document)
  | selectAt (ray : Space.Ray)
  | selectTable (name : String)
  | clearSelection
  | relayout
  | setConfig (config : Config)
  | toggleRelationships
  | toggleParticles
  | moveCamera (f : Space.Camera → Space.Camera)
  | tick (ms : Float)

/-- The scene after an event. -/
def step (s : Scene) : Event → Scene
  | .build d => s.build d
  | .finishLoad r => s.finishLoad r
  | .finishSave editor r => (s.finishSave editor r).1
  | .selectAt ray => s.selectAt ray
  | .selectTable name => s.selectTable name
  | .clearSelection => s.clearSelection
  | .relayout => s.relayout
  | .setConfig config => s.setConfig config
  | .toggleRelationships => s.toggleRelationships
  | .toggleParticles => s.toggleParticles
  | .moveCamera f => s.mapCamera f
  | .tick ms => s.tick ms

/-- The scene after events, in order. -/
def run (s : Scene) (es : List Event) : Scene := es.foldl step s

end SchemaAtlas.Scene
