/-!
# Sets of characters

A set of characters is kept as ranges of code points. Large sets are written down in
base sixteen: ranges with blanks between them, each its first and its last code point
with a hyphen between, or a single code point.
-/

namespace SchemaAtlas.Text

/-- Cuts a text at every `d`. -/
def cutAt (d : Char) : List Char → List (List Char)
  | [] => [[]]
  | c :: cs =>
    if c = d then [] :: cutAt d cs
    else match cutAt d cs with
      | [] => [[c]]
      | p :: ps => (c :: p) :: ps

/-- The words of a text, between spaces and line ends. -/
def words (cs : List Char) : List (List Char) :=
  (cutAt ' ' (cs.map fun c => if c = '\n' then ' ' else c)).filter (!·.isEmpty)

/-- The value of digits in base sixteen, in lower case. -/
def hexValue (cs : List Char) : Nat :=
  cs.foldl (fun n c => n * 16 + (if c.isDigit then c.toNat - 48 else c.toNat - 87)) 0

/-- A set of characters, as the first and the last code point of its ranges. -/
abbrev Ranges := List (Nat × Nat)

/-- Reads one range. -/
def readRange (cs : List Char) : Nat × Nat :=
  let first := hexValue (cs.takeWhile (· ≠ '-'))
  match cs.dropWhile (· ≠ '-') with
  | [] => (first, first)
  | _ :: last => (first, hexValue last)

/-- Reads a set that is written down. -/
def Ranges.read (s : String) : Ranges := (words s.toList).map readRange

example : Ranges.read "41-43 5f" = [(0x41, 0x43), (0x5F, 0x5F)] := rfl

/-- Whether a character is in a set. -/
def Ranges.contains (rs : Ranges) (c : Char) : Bool := rs.any fun r => r.1 ≤ c.toNat && c.toNat ≤ r.2

end SchemaAtlas.Text
