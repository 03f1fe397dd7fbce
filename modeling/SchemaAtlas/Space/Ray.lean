import SchemaAtlas.Space.Vec
/-!
# Rays and boxes

A ray meets a box when its line crosses all three slabs of the box at once. The
distance is that of the entry, or of the exit when the ray starts inside.
-/

namespace SchemaAtlas.Space

/-- A half-line from `origin`. -/
structure Ray where
  origin : Vec3
  dir : Vec3
deriving Inhabited

/-- The ray in a direction of any length. -/
def Ray.towards (origin dir : Vec3) : Ray := ⟨origin, dir.direction⟩

/-- The point at a distance. -/
def Ray.at (r : Ray) (t : Float32) : Vec3 := r.origin + r.dir.scale t

/-- A box with sides along the axes. -/
structure Box where
  min : Vec3
  max : Vec3
deriving Inhabited

namespace Box

/-- The box around a center. -/
def around (center half : Vec3) : Box := ⟨center - half, center + half⟩

def center (b : Box) : Vec3 := (b.min + b.max).scale 0.5

/-- A stretch of a ray, by its two distances. -/
structure Span where
  enter : Float32
  leave : Float32

/-- A component below which a direction counts as parallel to a slab. -/
def parallel : Float32 := 1.1920928955078125e-7

/-- The part of a stretch inside one slab, for one coordinate of origin and direction. -/
def slab (o d lo hi : Float32) (s : Span) : Option Span :=
  if d.abs ≤ parallel then
    if o < lo || o > hi then none else some s
  else
    let inv := 1 / d
    let t0 := (lo - o) * inv
    let t1 := (hi - o) * inv
    let (t0, t1) := if t0 > t1 then (t1, t0) else (t0, t1)
    let s : Span := ⟨larger s.enter t0, smaller s.leave t1⟩
    if s.enter > s.leave then none else some s

/-- The whole line of a ray. -/
def wholeLine : Span := ⟨-1 / 0, 1 / 0⟩

/-- The distance at which a ray meets a box. -/
def distance? (b : Box) (r : Ray) : Option Float32 := do
  let s ← slab r.origin.x r.dir.x b.min.x b.max.x wholeLine
  let s ← slab r.origin.y r.dir.y b.min.y b.max.y s
  let s ← slab r.origin.z r.dir.z b.min.z b.max.z s
  if s.leave < 0 then none
  else some (if s.enter ≥ 0 then s.enter else s.leave)

end Box
end SchemaAtlas.Space
