import SchemaAtlas.Text.Utf8
/-!
# Percent escapes

A character that has a meaning of its own in an address, or that may not stand in one,
is written as the bytes of its UTF-8 form, each as `%` and two digits in base sixteen.
Which characters are escaped depends on the part of the address.
-/

namespace SchemaAtlas.Web.Percent

open Text

/-- A digit in base sixteen. -/
def digit (n : Nat) : Char :=
  if n < 10 then Char.ofNat (48 + n) else Char.ofNat (55 + n)

/-- The value of a digit in base sixteen, in either case. -/
def digit? (b : UInt8) : Option Nat :=
  let n := b.toNat
  if 48 ≤ n && n ≤ 57 then some (n - 48)
  else if 65 ≤ n && n ≤ 70 then some (n - 55)
  else if 97 ≤ n && n ≤ 102 then some (n - 87)
  else none

/-- One byte as an escape. -/
def escape (b : UInt8) : List Char := ['%', digit (b.toNat / 16), digit (b.toNat % 16)]

/-! ## What is escaped where -/

/-- Control characters and everything beyond ASCII. -/
def everywhere (c : Char) : Bool := c.toNat < 0x20 || 0x7E < c.toNat

/-- What is escaped in a path. -/
def inPath (c : Char) : Bool :=
  everywhere c || [' ', '"', '<', '>', '`', '#', '?', '{', '}'].contains c

/-- What is escaped in one segment of a path. In the well-known schemes a backslash
would divide segments too. -/
def inSegment (special : Bool) (c : Char) : Bool :=
  inPath c || c == '/' || c == '%' || (special && c == '\\')

/-- What is escaped in a user name or a password. -/
def inUserInfo (c : Char) : Bool :=
  inPath c || ['/', ':', ';', '=', '@', '[', '\\', ']', '^', '|'].contains c

/-! ## Writing and reading -/

/-- Escapes the characters that `special` selects. -/
def encode (special : Char → Bool) (cs : List Char) : List Char :=
  cs.flatMap fun c => if special c then (String.utf8EncodeChar c).flatMap escape else [c]

/-- The byte of an escape that starts with the percent sign in front of the bytes. -/
def escaped? : List UInt8 → Option UInt8
  | h :: l :: _ => do return .ofNat ((← digit? h) * 16 + (← digit? l))
  | _ => none

/-- Replaces the escapes whose byte satisfies `p`; all else stays as it is. -/
def decodeWhere (p : UInt8 → Bool) : List UInt8 → List UInt8
  | [] => []
  | [b] => [b]
  | [b, h] => [b, h]
  | b :: h :: l :: bs =>
    match if b = 37 then escaped? [h, l] else none with
    | some e => if p e then e :: decodeWhere p bs else b :: h :: l :: decodeWhere p bs
    | none => b :: decodeWhere p (h :: l :: bs)

/-- Replaces every escape by its byte. -/
def decode (bs : List UInt8) : List UInt8 := decodeWhere (fun _ => true) bs

end SchemaAtlas.Web.Percent
