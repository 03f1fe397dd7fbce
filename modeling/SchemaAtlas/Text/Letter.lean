/-!
# Letters regardless of case

Dump keywords are recognised in two ways. Words of a pattern are compared letter
by letter after case folding (`foldCase`). Definitions are also looked at in
upper case (`upperChars`), where one character may become several letters.

Both functions are exact as far as the letters `A` to `Z` are concerned, which is
all that keywords are made of: a character that has no such letter in its folded
or upper-case form is left alone.
-/

namespace SchemaAtlas.Text

/-- The case folding of a character: besides `A` to `Z`, the long s folds to `s`
and the Kelvin sign to `k`. -/
def foldCase (c : Char) : Char :=
  if c.toNat == 0x17F then 's'
  else if c.toNat == 0x212A then 'k'
  else c.toLower

/-- Upper-case forms outside ASCII that contain a letter `A` to `Z`: dotless i and
long s, the sharp s and the ligatures, and letters that lose a combining mark. -/
def upperSpecial : List (Nat × List Char) :=
  [ (0xDF, ['S', 'S']), (0x131, ['I']), (0x149, [Char.ofNat 0x2BC, 'N']), (0x17F, ['S']),
    (0x1F0, ['J', Char.ofNat 0x30C]), (0x1E96, ['H', Char.ofNat 0x331]),
    (0x1E97, ['T', Char.ofNat 0x308]), (0x1E98, ['W', Char.ofNat 0x30A]),
    (0x1E99, ['Y', Char.ofNat 0x30A]), (0x1E9A, ['A', Char.ofNat 0x2BE]),
    (0xFB00, ['F', 'F']), (0xFB01, ['F', 'I']), (0xFB02, ['F', 'L']),
    (0xFB03, ['F', 'F', 'I']), (0xFB04, ['F', 'F', 'L']), (0xFB05, ['S', 'T']),
    (0xFB06, ['S', 'T']) ]

/-- The upper-case form of one character. -/
def upperChar (c : Char) : List Char :=
  if c.toNat < 0x80 then [c.toUpper] else (upperSpecial.lookup c.toNat).getD [c]

/-- The upper-case form of a text. -/
def upperChars (cs : List Char) : List Char := cs.flatMap upperChar

/-- Reads the word `w`, given in lower case, regardless of case. -/
def eatWord : (w : List Char) → List Char → Option (List Char)
  | [], cs => some cs
  | _ :: _, [] => none
  | l :: w, c :: cs => if foldCase c == l then eatWord w cs else none

/-- Whether `p` occurs in the text. -/
def occursIn (p : List Char) : List Char → Bool
  | [] => p.isEmpty
  | c :: cs => p.isPrefixOf (c :: cs) || occursIn p cs

end SchemaAtlas.Text
