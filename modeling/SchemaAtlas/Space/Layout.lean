import SchemaAtlas.Random.Generator
import SchemaAtlas.Space.Vec
/-!
# The circle of tables

Tables stand at equal angles on a circle around the vertical axis, each at a random
height.
-/

namespace SchemaAtlas.Space

open SchemaAtlas.Random (Generator)

/-- A circle of a radius, with heights from `-jitter / 2` up to below `jitter / 2`. -/
structure Layout where
  radius : Float32 := 25
  jitter : Float32 := 10
deriving Inhabited

namespace Layout

/-- The angle of a place among `count` equally spaced ones. -/
def angle (index count : Nat) : Float32 :=
  if count = 0 then 0 else index.toFloat32 * (fullTurn / count.toFloat32)

/-- A place on the circle; its height takes one random number. -/
def position (l : Layout) (index count : Nat) (g : Generator) : Vec3 × Generator :=
  let a := angle index count
  let (u, g) := g.unit
  (⟨l.radius * a.cos, (u - 0.5) * l.jitter, l.radius * a.sin⟩, g)

/-- The `remaining` last places among `count`, in order. -/
def positionsFrom (l : Layout) (count : Nat) : (remaining : Nat) → Generator → List Vec3 × Generator
  | 0, g => ([], g)
  | n + 1, g =>
    let (p, g) := l.position (count - (n + 1)) count g
    let (ps, g) := l.positionsFrom count n g
    (p :: ps, g)

/-- All places, in order. -/
def positions (l : Layout) (count : Nat) (g : Generator) : List Vec3 × Generator :=
  l.positionsFrom count count g

end Layout
end SchemaAtlas.Space
