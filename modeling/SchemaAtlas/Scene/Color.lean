/-!
# Colors

Colors are red, green, blue and opacity, one byte each; the first three are already
weighted by the opacity.
-/

namespace SchemaAtlas.Scene

/-- A color. -/
structure Color where
  r : UInt8
  g : UInt8
  b : UInt8
  a : UInt8
deriving DecidableEq, Inhabited, Repr

namespace Color

/-- The opaque color of a number `0xRRGGBB`; higher digits do not count. -/
def hex (rgb : Nat) : Color :=
  ⟨UInt8.ofNat (rgb / 0x10000), UInt8.ofNat (rgb / 0x100), UInt8.ofNat rgb, 255⟩

def white : Color := hex 0xffffff
def transparent : Color := ⟨0, 0, 0, 0⟩

/-- Adds two bytes, at most 255. -/
def addByte (x y : UInt8) : UInt8 := UInt8.ofNat (min 255 (x.toNat + y.toNat))

/-- A color lifted by a glow. A color without opacity stays invisible. -/
def lift (c glow : Color) : Color :=
  if c.a = 0 then transparent
  else ⟨addByte c.r glow.r, addByte c.g glow.g, addByte c.b glow.b, c.a⟩

/-- All four bytes weighted by a factor and rounded. -/
def fade (c : Color) (k : Float32) : Color :=
  let byte (x : UInt8) : UInt8 := (x.toNat.toFloat32 * k + 0.5).toUInt8
  ⟨byte c.r, byte c.g, byte c.b, byte c.a⟩

/-- Two digits in base sixteen. -/
def byteText (x : UInt8) : List Char :=
  [Nat.digitChar (x.toNat / 16), Nat.digitChar (x.toNat % 16)]

/-- The color as `#rrggbbaa`. -/
def text (c : Color) : String :=
  String.ofList ('#' :: byteText c.r ++ byteText c.g ++ byteText c.b ++ byteText c.a)

end Color
end SchemaAtlas.Scene
