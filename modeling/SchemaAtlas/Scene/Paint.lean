import SchemaAtlas.Scene.Basic
/-!
# Painting a scene

A scene is painted on a viewport as a list of flat shapes: the background, the
particles, the edges, and then the groups from back to front. Of each group the boxes
come first and the labels on top. What is not between the camera's two planes is left
out, and so are labels that would be too small to read.
-/

namespace SchemaAtlas.Scene

open Space

/-- A painted shape. -/
inductive Shape
  | rectangle (area : Viewport) (fill : Color)
  | circle (center : Vec2) (radius : Float32) (fill : Color)
  | line (start stop : Vec2) (width : Float32) (color : Color)
  | polygon (points : List Vec2) (fill : Color)
  | text (center : Vec2) (text : String) (fontSize : Float32) (color : Color)

/-- The color behind everything. -/
def background : Color := .hex 0x0f172a

/-- The color of edges. -/
def edgeColor : Color := (Color.hex 0x64748b).fade 0.6

/-- Whether a point lies in a viewport, its border included. -/
def inside (v : Viewport) (p : Vec2) : Bool :=
  v.min.x ≤ p.x && p.x ≤ v.max.x && v.min.y ≤ p.y && p.y ≤ v.max.y

/-- A camera with its view, looking at a viewport. -/
structure Lens where
  camera : Camera
  view : Camera.View
  viewport : Viewport

/-- Where a point appears. -/
def Lens.project (l : Lens) (p : Vec3) : Option Camera.Projected :=
  l.camera.projectWith l.view p l.viewport

/-- A particle, nearer ones larger. -/
def particleShape? (l : Lens) (ps : Particles) (p : Particle) : Option Shape := do
  let s ← l.project (ps.world p)
  if inside l.viewport s.screen then
    some (.circle s.screen (clamp 0.5 3.5 (p.size * 40 / s.depth)) (p.color.fade 0.6))
  else none

/-- An edge whose two ends can be seen. -/
def edgeShape? (l : Lens) (e : Edge) : Option Shape := do
  let a ← l.project e.start
  let b ← l.project e.stop
  return .line a.screen b.screen 1.5 edgeColor

/-- The front of a box. -/
def boxShape? (l : Lens) (g : Group) (m : Mesh) : Option Shape := do
  let c := g.position + m.offset + ⟨0, 0, m.size.z * 0.5⟩
  let hx := m.size.x * 0.5
  let hy := m.size.y * 0.5
  let corners : List Vec3 :=
    [c + ⟨-hx, hy, 0⟩, c + ⟨hx, hy, 0⟩, c + ⟨hx, -hy, 0⟩, c + ⟨-hx, -hy, 0⟩]
  let points ← corners.mapM l.project
  return .polygon (points.map Camera.Projected.screen) m.shaded

/-- The smallest font that is painted. -/
def minFontSize : Float32 := 5

/-- The largest font that is painted. -/
def maxFontSize : Float32 := 64

/-- A label, in a font that matches its height on the screen. -/
def labelShape? (l : Lens) (g : Group) (m : Mesh) : Option Shape := do
  let text ← m.text
  let c := g.position + m.offset
  let half : Vec3 := ⟨0, m.size.y * 0.5, 0⟩
  let center ← l.project c
  let top ← l.project (c + half)
  let bottom ← l.project (c - half)
  let size := top.screen.distance bottom.screen * m.fontSize / 128 * 2
  if size < minFontSize then none
  else some (.text center.screen text (smaller size maxFontSize) m.textColor)

/-- The shapes of a group. -/
def groupShapes (l : Lens) (g : Group) : List Shape :=
  (g.meshes.filter (!·.role.isLabel)).filterMap (boxShape? l g) ++
    (g.meshes.filter (·.role.isLabel)).filterMap (labelShape? l g)

/-- The groups that can be seen, farthest first. -/
def backToFront (l : Lens) (groups : List Group) : List Group :=
  let seen := groups.filterMap fun g => (l.project g.position).map fun p => (p.depth, g)
  (seen.mergeSort fun a b => a.1 ≥ b.1).map Prod.snd

/-- Everything that is painted, in order. -/
def paint (s : Scene) (v : Viewport) : List Shape :=
  let l : Lens := ⟨s.camera, s.camera.view, v⟩
  let particles :=
    if s.particlesVisible then s.particles.all.filterMap (particleShape? l s.particles) else []
  let edges :=
    if s.relationshipsVisible then (s.edges.filter Edge.visible).filterMap (edgeShape? l) else []
  .rectangle v background :: particles ++ edges ++
    (backToFront l s.arena.groups).flatMap (groupShapes l)

end SchemaAtlas.Scene
