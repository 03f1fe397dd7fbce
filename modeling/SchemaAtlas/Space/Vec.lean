/-!
# Vectors

Points and directions in space and on the screen, in single precision. The order of
the operations is part of every definition here, since rounding depends on it.
-/

namespace SchemaAtlas.Space

/-- The larger of two numbers; what is not a number is ignored. -/
def larger (a b : Float32) : Float32 :=
  if a.isNaN then b else if b.isNaN then a else if a < b then b else a

/-- The smaller of two numbers; what is not a number is ignored. -/
def smaller (a b : Float32) : Float32 :=
  if a.isNaN then b else if b.isNaN then a else if b < a then b else a

/-- The number of an interval nearest to `x`. -/
def clamp (lo hi x : Float32) : Float32 := if x < lo then lo else if x > hi then hi else x

/-- The full angle. -/
def fullTurn : Float32 := 6.283185307179586

/-- Half of the full angle. -/
def halfTurn : Float32 := 3.141592653589793

/-- A point or direction in space. -/
structure Vec3 where
  x : Float32
  y : Float32
  z : Float32
deriving Inhabited

namespace Vec3

def zero : Vec3 := ⟨0, 0, 0⟩

/-- The direction that points up. -/
def up : Vec3 := ⟨0, 1, 0⟩

instance : Add Vec3 := ⟨fun a b => ⟨a.x + b.x, a.y + b.y, a.z + b.z⟩⟩
instance : Sub Vec3 := ⟨fun a b => ⟨a.x - b.x, a.y - b.y, a.z - b.z⟩⟩
instance : Neg Vec3 := ⟨fun a => ⟨-a.x, -a.y, -a.z⟩⟩

/-- Multiplies every coordinate. -/
def scale (a : Vec3) (k : Float32) : Vec3 := ⟨a.x * k, a.y * k, a.z * k⟩

def dot (a b : Vec3) : Float32 := a.x * b.x + a.y * b.y + a.z * b.z

def cross (a b : Vec3) : Vec3 :=
  ⟨a.y * b.z - b.y * a.z, a.z * b.x - b.z * a.x, a.x * b.y - b.x * a.y⟩

def length (a : Vec3) : Float32 := (a.dot a).sqrt

/-- The direction of a vector with length one. -/
def normalize (a : Vec3) : Vec3 := a.scale (1 / a.length)

/-- The direction of a vector with length one, or zero if the vector has none. -/
def direction (a : Vec3) : Vec3 :=
  let k := 1 / a.length
  if k.isFinite && k > 0 then a.scale k else zero

/-- Turns a vector about the vertical axis. -/
def turn (angle : Float32) (v : Vec3) : Vec3 :=
  let w := (angle * 0.5).cos
  let b : Vec3 := ⟨0, (angle * 0.5).sin, 0⟩
  v.scale (w * w - b.dot b) + b.scale (v.dot b * 2) + (b.cross v).scale (w * 2)

end Vec3

/-- A point or displacement on the screen. -/
structure Vec2 where
  x : Float32
  y : Float32
deriving Inhabited

/-- The distance of two points on the screen, computed in double precision. -/
def Vec2.distance (a b : Vec2) : Float32 :=
  let dx := (a.x - b.x).toFloat
  let dy := (a.y - b.y).toFloat
  (dx * dx + dy * dy).sqrt.toFloat32

/-- A rectangle on the screen. -/
structure Viewport where
  min : Vec2
  max : Vec2
deriving Inhabited

namespace Viewport

/-- The rectangle with a corner at `(x, y)` and the given size. -/
def ofSize (x y width height : Float32) : Viewport := ⟨⟨x, y⟩, ⟨x + width, y + height⟩⟩

def width (v : Viewport) : Float32 := v.max.x - v.min.x
def height (v : Viewport) : Float32 := v.max.y - v.min.y
def center (v : Viewport) : Vec2 := ⟨(v.min.x + v.max.x) / 2, (v.min.y + v.max.y) / 2⟩

end Viewport
end SchemaAtlas.Space
