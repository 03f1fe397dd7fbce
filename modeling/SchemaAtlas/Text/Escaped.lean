import SchemaAtlas.Decimal.Digits
import SchemaAtlas.Text.Printable
/-!
# Texts quoted in messages

A text stands in a message between quotes. Quotes, backslashes and the usual control
characters are escaped by a letter; characters that cannot be seen on their own are
written by their number.
-/

namespace SchemaAtlas.Text

/-- The digits of a number in base sixteen. -/
def hexDigits (n : Nat) : List Char := Nat.toDigits 16 n

/-- One character as it stands in a message. -/
def escapedChar (c : Char) : List Char :=
  if c.toNat = 0 then ['\\', '0']
  else if c = '\t' then ['\\', 't']
  else if c = '\r' then ['\\', 'r']
  else if c = '\n' then ['\\', 'n']
  else if c = '"' then ['\\', '"']
  else if c = '\\' then ['\\', '\\']
  else if isPrintable c then [c]
  else ['\\', 'u', '{'] ++ hexDigits c.toNat ++ ['}']

/-- A text between quotes. -/
def escaped (s : String) : String := String.ofList ('"' :: s.toList.flatMap escapedChar ++ ['"'])

end SchemaAtlas.Text
