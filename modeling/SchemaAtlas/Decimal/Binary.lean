/-!
# Floating-point numbers taken apart

A finite binary number is a natural mantissa times a power of two, with a sign. The
exact decimal texts of this library are computed from these parts, in natural
numbers.
-/

namespace SchemaAtlas.Decimal

/-- The value of a floating-point number. -/
inductive Binary
  | nan
  | infinite (negative : Bool)
  /-- `mantissa * 2 ^ exponent`. A number is an edge when the next smaller one in
  magnitude is only half as far away as the next larger one. -/
  | finite (negative : Bool) (mantissa : Nat) (exponent : Int) (edge : Bool)
deriving DecidableEq, Repr

/-- The value of a bit pattern with `fraction` bits after the leading one and
exponents of `width` bits. -/
def Binary.ofBits (width fraction bits : Nat) : Binary :=
  let negative := bits / Nat.pow 2 (width + fraction) % 2 == 1
  let top := Nat.pow 2 width - 1
  let e := bits / Nat.pow 2 fraction % Nat.pow 2 width
  let m := bits % Nat.pow 2 fraction
  let low : Int := 2 - (Nat.pow 2 (width - 1)) - fraction
  if e = top then if m = 0 then .infinite negative else .nan
  else if e = 0 then .finite negative m low false
  else .finite negative (Nat.pow 2 fraction + m) (low + e - 1) (m == 0 && 1 < e)

/-- The value of a single-precision number. -/
def single (x : Float32) : Binary := .ofBits 8 23 x.toBits.toNat

/-- The value of a double-precision number. -/
def double (x : Float) : Binary := .ofBits 11 52 x.toBits.toNat

end SchemaAtlas.Decimal
