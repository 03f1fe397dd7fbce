/-!
# From double to single precision

A number in double precision becomes the nearest one in single precision; halfway
between two it becomes the one whose mantissa is even. What is too large becomes
infinite, and what is too small becomes zero.
-/

namespace SchemaAtlas.Decimal

open Float.Model (UnpackedFloat)

/-- The nearest number in single precision. -/
def narrow (x : Float) : Float32 :=
  .ofModel (.pack (match x.toModel.unpack with
    | .finite sign m e _ => UnpackedFloat.round .binary32 sign m e
    | other => other))

end SchemaAtlas.Decimal
