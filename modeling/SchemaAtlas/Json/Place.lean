import SchemaAtlas.Json.Decode
import SchemaAtlas.Text.Utf8
/-!
# Where a text fails

A text that does not decode is read up to some place, which its error message names. For
a text that is no JSON this is where reading stops. Other errors show as soon as enough
is read: the shortest beginning of the text that fails in the same way is what was read
of it. Only a number is read to its end; a list or an object in the wrong place is not
entered; after a repeated name the reading passes over spaces and the end of the object;
and after too many items it goes on to the next one.
-/

namespace SchemaAtlas.Json

/-- A place in a text: its line, counted from one, and the number of bytes before it in
the line. -/
structure Place where
  line : Nat
  column : Nat
deriving DecidableEq, Repr

/-- The place after so many bytes of a text. -/
def Place.after (cs : List Char) (count : Nat) : Place :=
  let read := (Text.bytes cs).take count
  ⟨1 + read.count 10, (read.reverse.takeWhile (· ≠ 10)).length⟩

/-- How a place is named. -/
def Place.text (p : Place) : String := s!"line {p.line} column {p.column}"

/-- How many bytes of the text `cs` are read when the text is left at `ahead`. -/
def bytesBefore (cs ahead : List Char) : Nat := byteCount cs - byteCount ahead

/-- The characters of numbers. -/
def isNumeral (c : Char) : Bool := c.isDigit || ['+', '-', '.', 'e', 'E'].contains c

/-- What follows a number that starts in `before` and goes on in `rest`. -/
def afterNumber (before rest : List Char) : List Char :=
  let number := (before.reverse.takeWhile isNumeral).reverse ++ rest
  let read := match number with
    | '-' :: cs => readUnsigned true cs
    | cs => readUnsigned false cs
  match read with
  | .number _ ahead => ahead
  | .broken _ _ => rest

variable {α : Type}

/-- Whether a text fails with this error. -/
def failsWith (f : Decoder α) (e : DecodeError) (cs : List Char) : Bool :=
  match parse f (String.ofList cs) with
  | .ok _ => false
  | .error e' => e'.message == e.message

/-- The shortest beginning of a text that fails with this error. -/
def failingStart (f : Decoder α) (e : DecodeError) (cs : List Char) : List Char :=
  cs.take (((List.range cs.length).find? fun n => failsWith f e (cs.take n)).getD cs.length)

/-- How many bytes are read of a text that fails with this error and shows it as soon as
`start` is read. -/
def bytesReadFrom (e : DecodeError) (start cs : List Char) : Nat :=
  let rest := cs.drop start.length
  let next := skipSpace rest
  let numberEnd := bytesBefore cs (afterNumber start rest)
  match e with
  | .surplus => bytesBefore cs next + if next.isEmpty then 0 else 1
  | .data (.duplicateField _) => bytesBefore cs next + if next.head? = some '}' then 1 else 0
  | .data (.wrongType .sequence _) => byteCount start.dropLast
  | .data (.wrongType .map _) => byteCount start.dropLast
  | .data (.wrongType (.integer _) _) => numberEnd
  | .data (.wrongType (.real _) _) => numberEnd
  | .data (.outOfRange _ _) => numberEnd
  | _ => byteCount start

/-- How many bytes are read of a text that fails with this error. -/
def bytesRead (f : Decoder α) (e : DecodeError) (cs : List Char) : Nat :=
  match e with
  | .fault s => bytesBefore cs s.ahead + s.inside
  | e => bytesReadFrom e (failingStart f e cs) cs

/-- What is reported of a text that fails with this error. -/
def failureText (f : Decoder α) (s : String) (e : DecodeError) : String :=
  e.message ++ " at " ++ (Place.after s.toList (bytesRead f e s.toList)).text

end SchemaAtlas.Json
