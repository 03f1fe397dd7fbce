import SchemaAtlas.Text.Utf8
import SchemaAtlas.Web.Domain.Character
import SchemaAtlas.Web.Domain.Direction
import SchemaAtlas.Web.Domain.Joiner
import SchemaAtlas.Web.Percent
import SchemaAtlas.Web.Punycode
/-!
# Domain names

A domain name is a row of labels with points between them. It may be written with the
characters of any script, in capitals or small letters; it is stored in ASCII, each
label beyond ASCII as a mark and its code.
-/

namespace SchemaAtlas.Web.Domain

open Text (bytes ofUtf8? cutAt)

/-- A label: how it is read, and how it is stored. -/
structure Label where
  text : List Char
  stored : List Char
deriving DecidableEq, Inhabited, Repr

/-- ASCII characters that no domain name has. -/
def isForbidden (c : Char) : Bool :=
  c.toNat ≤ 0x20 || c.toNat = 0x7F ||
    ['%', '#', '/', ':', '<', '>', '?', '@', '[', '\\', ']', '^', '|'].contains c

def isAscii (cs : List Char) : Bool := cs.all (·.toNat < 0x80)

/-- The mark in front of a coded label. -/
def codeMark : List Char := ['x', 'n', '-', '-']

/-- A label beyond ASCII has no more characters than this. -/
def longestLabel : Nat := 1000

/-- The code of a label is no longer than this. -/
def longestCode : Nat := 2000

/-- Whether a text can be a label: it starts with no mark, its joiners have a reason,
and it is not too long to be coded. -/
def isLabel (cs : List Char) : Bool :=
  !(cs.head?.any marks.contains) && joinersFit [] cs && (isAscii cs || cs.length ≤ longestLabel)

/-- Reads a label from its code. What was coded must have been in need of it, in its
composed form, and without characters that are replaced or left out. -/
def decodeLabel (stored : List Char) : Option Label :=
  let code := stored.drop codeMark.length
  if isAscii code && code.length ≤ longestCode then
    match Punycode.decode? code with
    | some text =>
      if !isAscii text && text.all isKept && compose text = text && isLabel text &&
          !codeMark.isPrefixOf text then
        some ⟨text, stored⟩
      else none
    | none => none
  else none

/-- Reads a label whose characters are replaced and composed already. -/
def readLabel (cs : List Char) : Option Label :=
  if cs.any isForbidden then none
  else if codeMark.isPrefixOf cs then decodeLabel cs
  else if !isLabel cs then none
  else if isAscii cs then some ⟨cs, cs⟩
  else some ⟨cs, codeMark ++ Punycode.encode cs⟩

/-- Reads the labels of a domain name. If one of them has letters written from right to
left, each must have one direction. -/
def readLabels (cs : List Char) : Option (List Label) := do
  let plain ← cs.mapM mapChar
  let labels ← (cutAt '.' (compose plain.flatten)).mapM readLabel
  if labels.any (hasRightToLeft ·.text) && !labels.all (isOneWay ·.text) then none
  else some labels

/-- A domain name as it is stored. Escapes in it stand for bytes. -/
def read (cs : List Char) : Option (List Char) := do
  let cs ← ofUtf8? (Percent.decode (bytes cs))
  let labels ← readLabels cs
  return ['.'].intercalate (labels.map (·.stored))

end SchemaAtlas.Web.Domain
