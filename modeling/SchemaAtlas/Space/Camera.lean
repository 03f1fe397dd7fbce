import SchemaAtlas.Space.Ray
/-!
# The orbit camera

The camera looks at a target from a point given by a distance and two angles.
Rotations are damped: a drag adds to a pending motion, and every frame takes up a
twentieth of it. The distance stays within bounds, and the camera never passes over
the poles while it turns.
-/

namespace SchemaAtlas.Space

def nearPlane : Float32 := 0.1
def farPlane : Float32 := 1000
def minDistance : Float32 := 5
def maxDistance : Float32 := 100
def damping : Float32 := 0.05

/-- How close to a pole the camera may come. -/
def poleMargin : Float32 := 1e-3

/-- The camera. `theta` is the angle about the vertical axis from the `z` axis, `phi`
the angle from the vertical axis. -/
structure Camera where
  target : Vec3
  distance : Float32
  theta : Float32
  phi : Float32
  pendingTheta : Float32
  pendingPhi : Float32
  /-- The vertical angle of view. -/
  fieldOfView : Float32
deriving Inhabited

namespace Camera

/-- A camera at `position`, or as near to it as the bounds allow. -/
def lookingFrom (position target : Vec3) : Camera :=
  let offset := position - target
  { target
    distance := clamp minDistance maxDistance offset.length
    theta := Float32.atan2 offset.x offset.z
    phi := (clamp (-1) 1 (offset.y / larger offset.length Box.parallel)).acos
    pendingTheta := 0
    pendingPhi := 0
    fieldOfView := 75 * (halfTurn / 180) }

/-- The usual viewpoint. -/
def initial : Camera := lookingFrom ⟨0, 20, 30⟩ .zero

/-- Where the camera is. -/
def position (c : Camera) : Vec3 :=
  let s := c.phi.sin
  c.target + ⟨c.distance * s * c.theta.sin, c.distance * c.phi.cos, c.distance * s * c.theta.cos⟩

/-- Adds a drag on a viewport of some height to the pending rotation. -/
def rotate (c : Camera) (delta : Vec2) (height : Float32) : Camera :=
  let h := larger height 1
  { c with pendingTheta := c.pendingTheta - fullTurn * delta.x / h
           pendingPhi := c.pendingPhi - fullTurn * delta.y / h }

/-- Moves nearer or farther. -/
def zoom (c : Camera) (scroll : Float32) : Camera :=
  if scroll == 0 then c
  else
    let k := Float32.pow 0.95 (scroll / 50)
    { c with distance := clamp minDistance maxDistance (c.distance * k) }

/-- The directions to the right, up and forward. -/
structure Basis where
  right : Vec3
  up : Vec3
  forward : Vec3

def basis (c : Camera) : Basis :=
  let forward := (c.target - c.position).direction
  let right := (forward.cross .up).direction
  ⟨right, right.cross forward, forward⟩

/-- Shifts the target along the screen. -/
def pan (c : Camera) (delta : Vec2) (height : Float32) : Camera :=
  let b := c.basis
  let k := 2 * c.distance * (c.fieldOfView * 0.5).tan / larger height 1
  { c with target := c.target + ((-b.right).scale delta.x + b.up.scale delta.y).scale k }

/-- What is left of a pending motion after a frame. -/
def settle (pending : Float32) : Float32 :=
  let p := pending * (1 - damping)
  if p.abs < 1e-5 then 0 else p

/-- Takes up part of the pending rotation. -/
def update (c : Camera) : Camera :=
  { c with theta := c.theta + c.pendingTheta * damping
           phi := clamp poleMargin (halfTurn - poleMargin) (c.phi + c.pendingPhi * damping)
           pendingTheta := settle c.pendingTheta
           pendingPhi := settle c.pendingPhi }

/-- Whether a rotation is still pending. -/
def moving (c : Camera) : Bool := c.pendingTheta != 0 || c.pendingPhi != 0

/-! ## Seeing -/

/-- A rigid motion: the images of the axes and of the origin. -/
structure View where
  x : Vec3
  y : Vec3
  z : Vec3
  origin : Vec3
deriving Inhabited

/-- The image of a point. -/
def View.apply (m : View) (p : Vec3) : Vec3 :=
  m.origin + (m.z.scale p.z + (m.y.scale p.y + m.x.scale p.x))

/-- The motion that brings the camera to the origin, looking along `-z`. -/
def view (c : Camera) : View :=
  let eye := c.position
  let f := (c.target - eye).normalize
  let s := (f.cross .up).normalize
  let u := s.cross f
  ⟨⟨s.x, u.x, -f.x⟩, ⟨s.y, u.y, -f.y⟩, ⟨s.z, u.z, -f.z⟩,
    ⟨-(eye.dot s), -(eye.dot u), eye.dot f⟩⟩

/-- The four columns of a motion as a matrix. -/
def View.columns (m : View) : List Float32 :=
  [m.x.x, m.x.y, m.x.z, 0, m.y.x, m.y.y, m.y.z, 0, m.z.x, m.z.y, m.z.z, 0,
    m.origin.x, m.origin.y, m.origin.z, 1]

/-- A point on the screen with its distance from the camera's plane. -/
structure Projected where
  screen : Vec2
  depth : Float32

/-- Where a point appears through the view `m`, if it is between the two planes. -/
def projectWith (c : Camera) (m : View) (world : Vec3) (v : Viewport) : Option Projected :=
  let p := m.apply world
  let depth := -p.z
  if nearPlane ≤ depth && depth ≤ farPlane then
    let aspect := v.width / larger v.height 1
    let t := (c.fieldOfView * 0.5).tan
    let x := p.x / (depth * t * aspect)
    let y := p.y / (depth * t)
    some ⟨⟨v.center.x + x * v.width * 0.5, v.center.y - y * v.height * 0.5⟩, depth⟩
  else none

/-- Where a point appears. -/
def project (c : Camera) (world : Vec3) (v : Viewport) : Option Projected :=
  c.projectWith c.view world v

/-- The ray through a point of the screen. -/
def rayThrough (c : Camera) (screen : Vec2) (v : Viewport) : Ray :=
  let b := c.basis
  let aspect := v.width / larger v.height 1
  let t := (c.fieldOfView * 0.5).tan
  let x := (screen.x - v.center.x) / larger (v.width * 0.5) 1
  let y := -(screen.y - v.center.y) / larger (v.height * 0.5) 1
  .towards c.position (b.forward + b.right.scale (x * t * aspect) + b.up.scale (y * t))

end Camera
end SchemaAtlas.Space
