/-!
# Texts as bytes

Texts travel as UTF-8. Bytes that are no UTF-8 are read as well: the longest part that
could still have become a character counts as one replacement character.
-/

namespace SchemaAtlas.Text

/-- The bytes of a text. -/
def bytes (cs : List Char) : List UInt8 := cs.flatMap String.utf8EncodeChar

/-- The character that stands for unreadable bytes. -/
def replacement : Char := Char.ofNat 0xFFFD

/-- How many bytes follow a first byte, which values the first of them may have, and
what the first byte contributes to the character. -/
def lead? (b : UInt8) : Option (Nat × Nat × Nat × Nat) :=
  let n := b.toNat
  if n < 0x80 then some (0, 0, 0, n)
  else if n < 0xC2 then none
  else if n < 0xE0 then some (1, 0x80, 0xBF, n - 0xC0)
  else if n = 0xE0 then some (2, 0xA0, 0xBF, 0)
  else if n = 0xED then some (2, 0x80, 0x9F, 0xD)
  else if n < 0xF0 then some (2, 0x80, 0xBF, n - 0xE0)
  else if n = 0xF0 then some (3, 0x90, 0xBF, 0)
  else if n < 0xF4 then some (3, 0x80, 0xBF, n - 0xF0)
  else if n = 0xF4 then some (3, 0x80, 0x8F, 4)
  else none

/-- Reads `more` further bytes, the first of them between `low` and `high`. Also gives
how many bytes belong to the character, or to what could have become one. -/
def follow : (more low high value taken : Nat) → List UInt8 → Option Char × Nat
  | 0, _, _, value, taken, _ => (some (Char.ofNat value), taken)
  | _ + 1, _, _, _, taken, [] => (none, taken)
  | more + 1, low, high, value, taken, b :: bs =>
    if low ≤ b.toNat && b.toNat ≤ high then
      follow more 0x80 0xBF (value * 64 + (b.toNat - 0x80)) (taken + 1) bs
    else (none, taken)

/-- The first character, and how many of the bytes after the first belong to it. -/
def firstChar (b : UInt8) (bs : List UInt8) : Option Char × Nat :=
  match lead? b with
  | none => (none, 0)
  | some (more, low, high, value) => follow more low high value 0 bs

/-- The characters that bytes stand for; `none` where they are unreadable. -/
def readUtf8 : List UInt8 → List (Option Char)
  | [] => []
  | b :: bs =>
    let r := firstChar b bs
    r.1 :: readUtf8 (bs.drop r.2)
termination_by bs => bs.length
decreasing_by simp only [List.length_drop, List.length_cons]; omega

/-- Reads bytes, with a replacement character where they are unreadable. -/
def lossy (bs : List UInt8) : List Char := (readUtf8 bs).map (·.getD replacement)

/-- Reads bytes that are readable throughout. -/
def ofUtf8? (bs : List UInt8) : Option (List Char) := (readUtf8 bs).mapM id

end SchemaAtlas.Text
