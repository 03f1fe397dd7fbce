import SchemaAtlas.Decimal.Shortest
/-!
# JSON values and their texts

Values as they are written: natural numbers, single-precision numbers, texts, lists
and objects whose members keep their order. `Value.compact` writes without any
space, `Value.pretty` one item a line with two blanks of indentation per level.

In a text, quotes, backslashes and characters below U+0020 are escaped; all other
characters stand for themselves.
-/

namespace SchemaAtlas.Json

/-- A JSON value. -/
inductive Value
  | null
  | bool (b : Bool)
  | natural (n : Nat)
  | real (x : Float32)
  | string (s : String)
  | array (items : List Value)
  | object (members : List (String × Value))

/-- A digit in base sixteen. -/
def hexDigit (n : Nat) : Char :=
  if n < 10 then Char.ofNat (48 + n) else Char.ofNat (87 + n)

/-- One character as it stands in a text. -/
def escape (c : Char) : List Char :=
  if c = '"' then ['\\', '"']
  else if c = '\\' then ['\\', '\\']
  else if c.toNat = 8 then ['\\', 'b']
  else if c.toNat = 12 then ['\\', 'f']
  else if c = '\n' then ['\\', 'n']
  else if c = '\r' then ['\\', 'r']
  else if c = '\t' then ['\\', 't']
  else if c.toNat < 32 then ['\\', 'u', '0', '0', hexDigit (c.toNat / 16), hexDigit (c.toNat % 16)]
  else [c]

/-- A text between quotes. -/
def quoted (s : String) : List Char := '"' :: s.toList.flatMap escape ++ ['"']

/-- A number between finite bounds; what has no decimal text is written `null`. -/
def realText (x : Float32) : List Char :=
  (Decimal.singleStyle.text? (Decimal.single x)).getD ['n', 'u', 'l', 'l']

/-- `true` or `false`. -/
def boolText : Bool → List Char
  | true => ['t', 'r', 'u', 'e']
  | false => ['f', 'a', 'l', 's', 'e']

/-! ## On one line -/

mutual

/-- The text of a value without spaces. -/
def Value.compactChars : Value → List Char
  | .null => ['n', 'u', 'l', 'l']
  | .bool b => boolText b
  | .natural n => Decimal.digits n
  | .real x => realText x
  | .string s => quoted s
  | .array items => '[' :: compactItems items ++ [']']
  | .object members => '{' :: compactMembers members ++ ['}']

/-- Values separated by commas. -/
def compactItems : List Value → List Char
  | [] => []
  | [v] => v.compactChars
  | v :: vs => v.compactChars ++ ',' :: compactItems vs

/-- Members separated by commas. -/
def compactMembers : List (String × Value) → List Char
  | [] => []
  | [(k, v)] => quoted k ++ ':' :: v.compactChars
  | (k, v) :: ms => quoted k ++ ':' :: v.compactChars ++ ',' :: compactMembers ms

end

/-- The text of a value without spaces. -/
def Value.compact (v : Value) : String := String.ofList v.compactChars

/-! ## On several lines -/

/-- The start of a line at a nesting level. -/
def newline (level : Nat) : List Char := '\n' :: List.replicate (2 * level) ' '

mutual

/-- The text of a value inside `level` lists and objects. -/
def Value.prettyChars (level : Nat) : Value → List Char
  | .null => ['n', 'u', 'l', 'l']
  | .bool b => boolText b
  | .natural n => Decimal.digits n
  | .real x => realText x
  | .string s => quoted s
  | .array [] => ['[', ']']
  | .array (v :: vs) => '[' :: prettyItems (level + 1) (v :: vs) ++ newline level ++ [']']
  | .object [] => ['{', '}']
  | .object (m :: ms) => '{' :: prettyMembers (level + 1) (m :: ms) ++ newline level ++ ['}']

/-- One value a line. -/
def prettyItems (level : Nat) : List Value → List Char
  | [] => []
  | [v] => newline level ++ v.prettyChars level
  | v :: vs => newline level ++ v.prettyChars level ++ ',' :: prettyItems level vs

/-- One member a line. -/
def prettyMembers (level : Nat) : List (String × Value) → List Char
  | [] => []
  | [(k, v)] => newline level ++ quoted k ++ ':' :: ' ' :: v.prettyChars level
  | (k, v) :: ms =>
    newline level ++ quoted k ++ ':' :: ' ' :: v.prettyChars level ++ ',' :: prettyMembers level ms

end

/-- The text of a value with one item a line. -/
def Value.pretty (v : Value) : String := String.ofList (v.prettyChars 0)

end SchemaAtlas.Json
