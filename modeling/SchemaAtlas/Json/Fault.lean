/-!
# Faults of a JSON text

Why a text is not JSON, and how far it was read. Either it ends too early, inside of
something that is not yet complete, or a character does not belong where it stands.
-/

namespace SchemaAtlas.Json

/-- Why a text is not JSON. -/
inductive Fault
  | endInValue
  | endInList
  | endInObject
  | endInText
  | noValue
  /-- A word that starts like `null`, `true` or `false` and is not one of them. -/
  | noLiteral
  | noColon
  /-- Neither a comma nor the end after an item of a list. -/
  | noListEnd
  /-- Neither a comma nor the end after a member of an object. -/
  | noObjectEnd
  | trailingComma
  | keyNotText
  | badNumber
  | numberTooLarge
  | badEscape
  | controlCharacter
  /-- The second half of a surrogate pair without the first, or the first half with
  another unit after it. -/
  | loneSurrogate
  /-- The first half of a surrogate pair without any unit after it. -/
  | unfinishedPair
  /-- Something after the end. -/
  | trailingCharacters
deriving DecidableEq, Repr

namespace Fault

/-- Whether the text ends too early. -/
def isEnd : Fault → Bool
  | endInValue | endInList | endInObject | endInText => true
  | _ => false

def message : Fault → String
  | endInValue => "EOF while parsing a value"
  | endInList => "EOF while parsing a list"
  | endInObject => "EOF while parsing an object"
  | endInText => "EOF while parsing a string"
  | noValue => "expected value"
  | noLiteral => "expected ident"
  | noColon => "expected `:`"
  | noListEnd => "expected `,` or `]`"
  | noObjectEnd => "expected `,` or `\x7d`"
  | trailingComma => "trailing comma"
  | keyNotText => "key must be a string"
  | badNumber => "invalid number"
  | numberTooLarge => "number out of range"
  | badEscape => "invalid escape"
  | controlCharacter => "control character (\\u0000-\\u001F) found while parsing a string"
  | loneSurrogate => "lone leading surrogate in hex escape"
  | unfinishedPair => "unexpected end of hex escape"
  | trailingCharacters => "trailing characters"

end Fault

/-- A fault, with what is left of the text where reading stops, and how many bytes of
that are read nevertheless. -/
structure Stop where
  fault : Fault
  ahead : List Char
  inside : Nat := 0
deriving DecidableEq, Repr

namespace Stop

/-- The text ends too early. -/
def atEnd (f : Fault) : Stop := ⟨f, [], 0⟩

/-- The next character does not belong there; its first byte is read. If there is none,
nothing is. -/
def upon (f : Fault) (ahead : List Char) : Stop := ⟨f, ahead, if ahead.isEmpty then 0 else 1⟩

end Stop
end SchemaAtlas.Json
