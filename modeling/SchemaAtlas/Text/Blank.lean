/-!
# Blank characters

A character is blank when it has the Unicode property `White_Space`. Names and
types are trimmed of blanks, blanks separate the words of a dump, and a text of
blanks only counts as empty.
-/

namespace SchemaAtlas.Text

/-- The characters with the property `White_Space`. -/
def isBlank (c : Char) : Bool :=
  let n := c.toNat
  (9 ≤ n && n ≤ 13) || n == 0x20 || n == 0x85 || n == 0xA0 || n == 0x1680 ||
    (0x2000 ≤ n && n ≤ 0x200A) || n == 0x2028 || n == 0x2029 || n == 0x202F ||
    n == 0x205F || n == 0x3000

/-- Drops what satisfies `p` from both ends. -/
def stripBoth (p : Char → Bool) (cs : List Char) : List Char :=
  ((cs.dropWhile p).reverse.dropWhile p).reverse

/-- Drops the blanks at both ends. -/
def trimChars (cs : List Char) : List Char := stripBoth isBlank cs

/-- Drops the blanks at both ends. -/
def trim (s : String) : String := String.ofList (trimChars s.toList)

/-- No character, or blanks only. -/
def isBlankText (s : String) : Bool := s.toList.all isBlank

end SchemaAtlas.Text
