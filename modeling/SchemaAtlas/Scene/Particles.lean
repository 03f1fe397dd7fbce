import SchemaAtlas.Random.Generator
import SchemaAtlas.Scene.Color
import SchemaAtlas.Space.Vec
/-!
# The particle cloud

A decoration behind the schema: random points that drift a little with time, in a
cloud that turns about the vertical axis.
-/

namespace SchemaAtlas.Scene

open SchemaAtlas.Random (Generator)
open Space

/-- A point of the cloud. -/
structure Particle where
  position : Vec3
  color : Color
  size : Float32
deriving Inhabited

/-- The cloud and how far it has turned. -/
structure Particles where
  all : List Particle := []
  angle : Float32 := 0
deriving Inhabited

namespace Particles

/-- A random particle; takes seven random numbers. -/
def draw (g : Generator) : Particle × Generator :=
  let (x, g) := g.unit
  let (y, g) := g.unit
  let (z, g) := g.unit
  let (r, g) := g.unit
  let (gr, g) := g.unit
  let (b, g) := g.unit
  let (s, g) := g.unit
  let byte (x : Float32) : UInt8 := (x * 255).toUInt8
  ({ position := ⟨(x - 0.5) * 200, (y - 0.5) * 200, (z - 0.5) * 200⟩
     color := ⟨byte (0.2 + r * 0.3), byte (0.4 + gr * 0.4), byte (0.8 + b * 0.2), 255⟩
     size := s * 2 + 0.5 }, g)

/-- `count` random particles, in front of those already drawn in reverse. -/
def drawMany : (count : Nat) → List Particle → Generator → List Particle × Generator
  | 0, ps, g => (ps.reverse, g)
  | n + 1, ps, g =>
    let (p, g) := draw g
    drawMany n (p :: ps) g

/-- A new cloud. -/
def new (count : Nat) (g : Generator) : Particles × Generator :=
  let (ps, g) := drawMany count [] g
  (⟨ps, 0⟩, g)

def size (p : Particles) : Nat := p.all.length

/-- The drift of the particle at a place, at a time in milliseconds. Computed in double
precision. -/
def drift (ms : Float) (index : Nat) (p : Particle) : Particle :=
  let i := (index * 3).toFloat
  let dy := ((ms * 0.001 + i).sin * 0.01).toFloat32
  let dx := ((ms * 0.0005 + i).cos * 0.005).toFloat32
  { p with position := ⟨p.position.x + dx, p.position.y + dy, p.position.z⟩ }

/-- One frame at a time in milliseconds. -/
def advance (p : Particles) (ms : Float) : Particles where
  all := p.all.zipIdx.map fun (q, i) => drift ms i q
  angle := p.angle + 0.001

/-- Where a particle is once the cloud has turned. -/
def world (p : Particles) (q : Particle) : Vec3 := q.position.turn p.angle

end Particles
end SchemaAtlas.Scene
