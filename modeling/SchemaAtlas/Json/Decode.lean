import SchemaAtlas.Json.Tree
import SchemaAtlas.Decimal.Narrow
import SchemaAtlas.Decimal.Shortest
import SchemaAtlas.Text.Escaped
/-!
# Decoding JSON trees

Decoders walk a tree in reading order and stop at the first problem. Records are
read from an object, in any order of members, or from a list of their fields in
declaration order. Members with unknown names are skipped.
-/

namespace SchemaAtlas.Json

/-- What a decoder found instead of what it expected. -/
inductive Found
  | null
  | bool (b : Bool)
  | integer (i : Int)
  | real (x : Float)
  | string (s : String)
  | sequence
  | map

/-- A text that is JSON but not the JSON of the expected value. -/
inductive DataError
  | missingField (name : String)
  | duplicateField (name : String)
  | wrongType (found : Found) (expected : String)
  | outOfRange (i : Int) (expected : String)
  | wrongLength (n : Nat) (expected : String)

/-- Why a text does not decode. -/
inductive DecodeError
  | fault (s : Stop)
  /-- A record is given as a list with more items than it has fields. -/
  | surplus
  | data (e : DataError)

/-- An integer as a text. -/
def intText (i : Int) : String :=
  (if i < 0 then "-" else "") ++ Decimal.text i.natAbs

/-- The double-precision number as a text. -/
def doubleText (x : Float) : String :=
  String.ofList ((Decimal.doubleStyle.text? (Decimal.double x)).getD [])

def Found.text : Found → String
  | .null => "null"
  | .bool b => if b then "boolean `true`" else "boolean `false`"
  | .integer i => "integer `" ++ intText i ++ "`"
  | .real x => "floating point `" ++ doubleText x ++ "`"
  | .string s => "string " ++ Text.escaped s
  | .sequence => "sequence"
  | .map => "map"

def DataError.message : DataError → String
  | .missingField name => "missing field `" ++ name ++ "`"
  | .duplicateField name => "duplicate field `" ++ name ++ "`"
  | .wrongType found expected => "invalid type: " ++ found.text ++ ", expected " ++ expected
  | .outOfRange i expected => "invalid value: integer `" ++ intText i ++ "`, expected " ++ expected
  | .wrongLength n expected => "invalid length " ++ Decimal.text n ++ ", expected " ++ expected

def DecodeError.message : DecodeError → String
  | .fault s => s.fault.message
  | .surplus => Fault.trailingCharacters.message
  | .data e => e.message

/-- What a decoder of `α` makes of a tree. -/
abbrev Decoder (α : Type) := Tree → Except DecodeError α

/-! ## Simple values -/

/-- A text that has to be read. -/
def Word.read : Word → Except DecodeError String
  | .text s => .ok s
  | .unpaired s => .error (.fault s)
  | .broken s _ => .error (.fault s)

/-- What stands in a tree where something else is expected. Lists and objects are not
read any further. -/
def Tree.found : Tree → Except DecodeError Found
  | .null => .ok .null
  | .bool b => .ok (.bool b)
  | .number (.natural n) => .ok (.integer n)
  | .number (.negative n) => .ok (.integer (-n))
  | .number (.real x) => .ok (.real x)
  | .number (.tooLarge ahead) => .error (.fault ⟨.numberTooLarge, ahead, 0⟩)
  | .string w => w.read.map Found.string
  | .array _ => .ok .sequence
  | .object _ => .ok .map
  | .broken f _ => .error (.fault f)

/-- The error of a tree that is not what is expected. -/
def Tree.unexpected {α : Type} (t : Tree) (expected : String) : Except DecodeError α :=
  match t.found with
  | .ok f => .error (.data (.wrongType f expected))
  | .error e => .error e

/-- Decodes a text. -/
def textAs (expected : String) : Decoder String
  | .string w => w.read
  | t => t.unexpected expected

/-- Decodes a text. -/
def text : Decoder String := textAs "a string"

/-- Decodes a truth value. -/
def bool : Decoder Bool
  | .bool b => .ok b
  | t => t.unexpected "a boolean"

/-- Decodes a natural number below `2 ^ bits`. -/
def word (bits : Nat) (expected : String) : Decoder Nat
  | .number (.natural n) =>
    if n < Nat.pow 2 bits then .ok n else .error (.data (.outOfRange n expected))
  | .number (.negative n) => .error (.data (.outOfRange (-n) expected))
  | t => t.unexpected expected

/-- Decodes a natural number of 64 bits. -/
def word64 : Decoder UInt64 := fun t => (word 64 "u64" t).map UInt64.ofNat

/-- Decodes a number in single precision. -/
def single : Decoder Float32
  | .number (.natural n) => .ok (UInt64.ofNat n).toFloat32
  | .number (.negative n) => .ok (-(UInt64.ofNat n).toFloat32)
  | .number (.real x) => .ok (Decimal.narrow x)
  | t => t.unexpected "f32"

/-- Decodes `null` as nothing. -/
def optional {α : Type} (f : Decoder α) : Decoder (Option α)
  | .null => .ok none
  | t => (f t).map some

/-! ## Lists and maps -/

/-- Decodes the items of a list. -/
def Items.decode {α : Type} (f : Decoder α) : Items → Except DecodeError (List α)
  | .closed => .ok []
  | .cut e _ => .error (.fault e)
  | .item t rest => do
    let a ← f t
    let as ← rest.decode f
    return a :: as

/-- Decodes a list. -/
def list {α : Type} (f : Decoder α) : Decoder (List α)
  | .array items => items.decode f
  | t => t.unexpected "a sequence"

/-- Decodes the members of an object whose names are free. -/
def Members.decode {α : Type} (f : Decoder α) : Members → Except DecodeError (List (String × α))
  | .closed => .ok []
  | .cut e _ => .error (.fault e)
  | .member key t rest => do
    let k ← key.read
    let a ← f t
    let as ← rest.decode f
    return (k, a) :: as

/-- Decodes an object whose names are free. -/
def map {α : Type} (f : Decoder α) : Decoder (List (String × α))
  | .object members => members.decode f
  | t => t.unexpected "a map"

/-! ## Records -/

/-- A field of a record: how its value is decoded and put into the record. -/
structure Slot (α : Type) where
  name : String
  required : Bool
  put : Tree → α → Except DecodeError α

/-- A kind of record. The fields that are not required have their values in `start`. -/
structure Record (α : Type) where
  name : String
  start : α
  slots : List (Slot α)

/-- A field decoded by `f`. -/
def slot {α β : Type} (name : String) (required : Bool) (f : Decoder β) (set : β → α → α) :
    Slot α :=
  ⟨name, required, fun t a => (f t).map fun b => set b a⟩

namespace Record

variable {α : Type}

/-- The first required field whose name is not in `seen`. -/
def missing? (slots : List (Slot α)) (seen : List String) : Option String :=
  (slots.find? fun s => s.required && !seen.contains s.name).map Slot.name

/-- Fills the record from members. A field may occur once; at the end no required field
may be missing. -/
def ofMembers (slots : List (Slot α)) (seen : List String) (a : α) :
    Members → Except DecodeError α
  | .closed =>
    match missing? slots seen with
    | some name => .error (.data (.missingField name))
    | none => .ok a
  | .cut f _ => .error (.fault f)
  | .member key t rest => do
    let k ← key.read
    match slots.find? (·.name == k) with
    | some s =>
      if seen.contains k then .error (.data (.duplicateField k))
      else
        let a ← s.put t a
        ofMembers slots (k :: seen) a rest
    | none =>
      match t.skipFault? with
      | some f => .error (.fault f)
      | none => ofMembers slots seen a rest

/-- Fills the record from items, one for each field. Fields that are not required may be
absent at the end; `n` fields are already read, and `expected` names the record. Whatever
follows the last field has to end the list. -/
def ofItems (expected : String) : (n : Nat) → List (Slot α) → α → Items → Except DecodeError α
  | _, [], a, .closed => .ok a
  | _, [], _, .cut s _ =>
    .error (.fault (if s.fault = .noListEnd then { s with fault := .trailingCharacters } else s))
  | _, [], _, .item _ _ => .error .surplus
  | n, s :: slots, a, .closed =>
    if s.required then .error (.data (.wrongLength n expected))
    else ofItems expected (n + 1) slots a .closed
  | _, _ :: _, _, .cut f _ => .error (.fault f)
  | n, s :: slots, a, .item t rest => do
    let a ← s.put t a
    ofItems expected (n + 1) slots a rest

/-- The name of the record with its number of fields. -/
def lengthName (r : Record α) : String :=
  "struct " ++ r.name ++ " with " ++ Decimal.text r.slots.length ++ " elements"

/-- Decodes a record. -/
def decode (r : Record α) : Decoder α
  | .object members => ofMembers r.slots [] r.start members
  | .array items => ofItems r.lengthName 0 r.slots r.start items
  | t => t.unexpected ("struct " ++ r.name)

end Record

/-! ## Whole texts -/

/-- Decodes a text that holds one value and nothing else but spaces. -/
def parse {α : Type} (f : Decoder α) (s : String) : Except DecodeError α := do
  let (t, rest) := readTree s.toList
  let a ← f t
  if (skipSpace rest).isEmpty then return a
  else throw (.fault (.upon .trailingCharacters (skipSpace rest)))

end SchemaAtlas.Json
