import SchemaAtlas.Json.Number
/-!
# The structure of a JSON text

A text is read into a tree that records everything in reading order, up to the first
place where the text stops being JSON. There the tree is cut: it holds a fault
instead of what would have followed. A decoder that walks the tree in reading order
therefore meets the first problem of the text first, be it a fault or a value of the
wrong kind.

A value may also be passed over without being looked at. Skipping is more lenient:
a text with half a surrogate pair and a number that is too large can be skipped but
not read.
-/

namespace SchemaAtlas.Json

/-! ## Texts -/

/-- A part of a text between quotes: a character, or a 16-bit unit given by its
number. -/
inductive Piece
  | char (c : Char)
  | unit (n : Nat)
deriving DecidableEq, Repr

/-- How the reading of a text ends: at its closing quote, or by a fault, which may lie in
a unit given by its number. -/
inductive PiecesEnd
  | closed (rest : List Char)
  | cut (read skip : Stop) (inUnit : Bool)
deriving DecidableEq, Repr

/-- The value of a digit in base sixteen. -/
def hexValue? (c : Char) : Option Nat :=
  if '0' ≤ c && c ≤ '9' then some (c.toNat - 48)
  else if 'a' ≤ c && c ≤ 'f' then some (c.toNat - 87)
  else if 'A' ≤ c && c ≤ 'F' then some (c.toNat - 55)
  else none

/-- The number with these four digits in base sixteen. -/
def hexUnit? (a b c d : Char) : Option Nat := do
  return ((← hexValue? a) * 16 + (← hexValue? b)) * 256 + (← hexValue? c) * 16 + (← hexValue? d)

/-- The character that a one-letter escape stands for. -/
def simpleEscape? (c : Char) : Option Char :=
  if c = '"' then some '"'
  else if c = '\\' then some '\\'
  else if c = '/' then some '/'
  else if c = 'b' then some (Char.ofNat 8)
  else if c = 'f' then some (Char.ofNat 12)
  else if c = 'n' then some '\n'
  else if c = 'r' then some '\r'
  else if c = 't' then some '\t'
  else none

/-- How many bytes a text takes in UTF-8. -/
def byteCount (cs : List Char) : Nat := cs.foldl (fun n c => n + c.utf8Size) 0

/-- Puts a piece in front. -/
def consPiece (p : Piece) (r : List Piece × PiecesEnd) : List Piece × PiecesEnd := (p :: r.1, r.2)

/-- A fault in a text, whether it is read or skipped. -/
def PiecesEnd.stop (s : Stop) (inUnit : Bool) : PiecesEnd := .cut s s inUnit

/-- Reads the pieces of a text whose opening quote is read. An escaped unit has four
digits, which are read before they are looked at; if fewer than four bytes are left, the
text ended. A control character is read if the text is, and not read if it is skipped. -/
def readPieces : List Char → List Piece × PiecesEnd
  | [] => ([], .stop (.atEnd .endInText) false)
  | ['\\'] => ([], .stop (.atEnd .endInText) false)
  | '\\' :: 'u' :: a :: b :: c :: d :: cs =>
    match hexUnit? a b c d with
    | some n => consPiece (.unit n) (readPieces cs)
    | none => ([], .stop ⟨.badEscape, a :: b :: c :: d :: cs, 4⟩ true)
  | '\\' :: c :: cs =>
    if c = 'u' then
      ([], .stop (if byteCount cs < 4 then .atEnd .endInText else ⟨.badEscape, cs, 4⟩) true)
    else match simpleEscape? c with
      | some x => consPiece (.char x) (readPieces cs)
      | none => ([], .stop (.upon .badEscape (c :: cs)) false)
  | c :: cs =>
    if c = '"' then ([], .closed cs)
    else if c.toNat < 32 then
      ([], .cut (.upon .controlCharacter (c :: cs)) ⟨.controlCharacter, c :: cs, 0⟩ false)
    else consPiece (.char c) (readPieces cs)

/-- The unit is the first half of a surrogate pair. -/
def isLeading (n : Nat) : Bool := 0xD800 ≤ n && n ≤ 0xDBFF

/-- The unit is the second half of a surrogate pair. -/
def isTrailing (n : Nat) : Bool := 0xDC00 ≤ n && n ≤ 0xDFFF

/-- What follows the first piece of a text. -/
def afterPiece : List Char → List Char
  | '\\' :: 'u' :: cs => cs.drop 4
  | '\\' :: _ :: cs => cs
  | _ :: cs => cs
  | [] => []

/-- The second half of a surrogate pair is due, and something else stands there. -/
def unfinishedPair : List Char → Stop
  | '\\' :: cs => .upon .unfinishedPair cs
  | cs => .upon .unfinishedPair cs

/-- The fault that is met in a text where the second half of a surrogate pair is due and
no piece follows. -/
def PiecesEnd.afterLeading (ending : PiecesEnd) (cs : List Char) : Stop :=
  match ending with
  | .closed _ => unfinishedPair cs
  | .cut s _ inUnit => if s.fault.isEnd || inUnit then s else unfinishedPair cs

/-- The characters of the pieces of the text `cs`, or the first fault in reading order;
half a surrogate pair has no character. -/
def joinPieces (ending : PiecesEnd) : (cs : List Char) → List Piece → Except Stop (List Char)
  | _, [] =>
    match ending with
    | .closed _ => .ok []
    | .cut s _ _ => .error s
  | cs, .char c :: ps => (joinPieces ending (afterPiece cs) ps).map (c :: ·)
  | cs, [.unit n] =>
    if isLeading n then .error (ending.afterLeading (afterPiece cs))
    else if isTrailing n then .error ⟨.loneSurrogate, afterPiece cs, 0⟩
    else (joinPieces ending (afterPiece cs) []).map (Char.ofNat n :: ·)
  | cs, .unit n :: .unit m :: ps =>
    if isLeading n then
      if isTrailing m then
        (joinPieces ending (afterPiece (afterPiece cs)) ps).map
          (Char.ofNat (0x10000 + (n - 0xD800) * 1024 + (m - 0xDC00)) :: ·)
      else .error ⟨.loneSurrogate, afterPiece (afterPiece cs), 0⟩
    else if isTrailing n then .error ⟨.loneSurrogate, afterPiece cs, 0⟩
    else (joinPieces ending (afterPiece cs) (.unit m :: ps)).map (Char.ofNat n :: ·)
  | cs, .unit n :: .char c :: ps =>
    if isLeading n then .error (unfinishedPair (afterPiece cs))
    else if isTrailing n then .error ⟨.loneSurrogate, afterPiece cs, 0⟩
    else (joinPieces ending (afterPiece cs) (.char c :: ps)).map (Char.ofNat n :: ·)

/-- A text as it was read. -/
inductive Word
  | text (s : String)
  /-- Well formed, but with half a surrogate pair. -/
  | unpaired (stop : Stop)
  | broken (read skip : Stop)
deriving DecidableEq, Repr

/-- Reads a text whose opening quote is read. -/
def readWord (cs : List Char) : Word × List Char :=
  match readPieces cs with
  | (ps, .closed rest) =>
    match joinPieces (.closed rest) cs ps with
    | .ok s => (.text (String.ofList s), rest)
    | .error s => (.unpaired s, rest)
  | (ps, .cut read skip inUnit) =>
    match joinPieces (.cut read skip inUnit) cs ps with
    | .ok _ => (.broken read skip, [])
    | .error s => (.broken s skip, [])

/-! ## Values -/

mutual

/-- A value as it was read. -/
inductive Tree
  | null
  | bool (b : Bool)
  | number (n : Number)
  | string (w : Word)
  | array (items : Items)
  | object (members : Members)
  | broken (read skip : Stop)

/-- The items of a list, up to its end or to a fault. -/
inductive Items
  | closed
  | cut (read skip : Stop)
  | item (value : Tree) (rest : Items)

/-- The members of an object, up to its end or to a fault. -/
inductive Members
  | closed
  | cut (read skip : Stop)
  | member (key : Word) (value : Tree) (rest : Members)

end

/-- A fault, whether the value is read or skipped. -/
def Tree.stop (s : Stop) : Tree := .broken s s

/-- A fault, whether the items are read or skipped. -/
def Items.stop (s : Stop) : Items := .cut s s

/-- A fault, whether the members are read or skipped. -/
def Members.stop (s : Stop) : Members := .cut s s

/-- The spaces of JSON. -/
def isSpace (c : Char) : Bool := c == ' ' || c == '\n' || c == '\t' || c == '\r'

/-- Passes over spaces. -/
def skipSpace (cs : List Char) : List Char := cs.dropWhile isSpace

/-- Reads the letters of a literal after its first one. -/
def readLiteral (t : Tree) : (letters : List Char) → List Char → Tree × List Char
  | [], cs => (t, cs)
  | _ :: _, [] => (.stop (.atEnd .endInValue), [])
  | l :: ls, c :: cs =>
    if c = l then readLiteral t ls cs else (.stop (.upon .noLiteral (c :: cs)), [])

/-- The tree of a number. -/
def ofNumberRead : NumberRead → Tree × List Char
  | .number n rest => (.number n, rest)
  | .broken r s => (.broken r s, [])

mutual

/-- Reads a value. The fuel bounds the number of values and separators; the length of
the text is enough. -/
def readValue : (fuel : Nat) → List Char → Tree × List Char
  | 0, _ => (.stop (.atEnd .endInValue), [])
  | fuel + 1, cs =>
    match skipSpace cs with
    | [] => (.stop (.atEnd .endInValue), [])
    | c :: cs =>
      if c = '"' then ((readWord cs).map Tree.string id)
      else if c = '[' then ((readItems fuel true cs).map Tree.array id)
      else if c = '{' then ((readMembers fuel true cs).map Tree.object id)
      else if c = 'n' then readLiteral .null ['u', 'l', 'l'] cs
      else if c = 't' then readLiteral (.bool true) ['r', 'u', 'e'] cs
      else if c = 'f' then readLiteral (.bool false) ['a', 'l', 's', 'e'] cs
      else if c = '-' then ofNumberRead (readUnsigned true cs)
      else if c.isDigit then ofNumberRead (readUnsigned false (c :: cs))
      else (.stop (.upon .noValue (c :: cs)), [])

/-- Reads the items of a list from the `first` one on, or from the separator after an
item. -/
def readItems : (fuel : Nat) → (first : Bool) → List Char → Items × List Char
  | 0, _, _ => (.stop (.atEnd .endInList), [])
  | fuel + 1, first, cs =>
    match skipSpace cs with
    | [] => (.stop (.atEnd .endInList), [])
    | c :: r =>
      if c = ']' then (.closed, r)
      else if !first && c ≠ ',' then (.stop (.upon .noListEnd (c :: r)), [])
      else if !first && (skipSpace r).head? = some ']' then
        (.cut (.upon .trailingComma (skipSpace r)) (.upon .noValue (skipSpace r)), [])
      else
        let (v, rest) := readValue fuel (if first then c :: r else r)
        (readItems fuel false rest).map (Items.item v) id

/-- Reads the members of an object from the `first` one on, or from the separator after
a member. -/
def readMembers : (fuel : Nat) → (first : Bool) → List Char → Members × List Char
  | 0, _, _ => (.stop (.atEnd .endInObject), [])
  | fuel + 1, first, cs =>
    match skipSpace cs with
    | [] => (.stop (.atEnd .endInObject), [])
    | c :: r =>
      if c = '}' then (.closed, r)
      else if !first && c ≠ ',' then (.stop (.upon .noObjectEnd (c :: r)), [])
      else
        match if first then c :: r else skipSpace r with
        | [] => (.cut (.atEnd .endInValue) (.atEnd .endInObject), [])
        | q :: r =>
          if q = '"' then
            let (key, r) := readWord r
            match skipSpace r with
            | [] => (.member key (.stop (.atEnd .endInObject)) .closed, [])
            | colon :: r =>
              if colon = ':' then
                let (v, rest) := readValue fuel r
                (readMembers fuel false rest).map (Members.member key v) id
              else (.member key (.stop (.upon .noColon (colon :: r))) .closed, [])
          else
            (.cut (.upon (if q = '}' then .trailingComma else .keyNotText) (q :: r))
              (.upon .keyNotText (q :: r)), [])

end

/-- Reads the value at the start of a text, and gives what follows it. -/
def readTree (cs : List Char) : Tree × List Char := readValue (cs.length + 1) cs

/-! ## Skipping -/

/-- The fault that skipping a text meets. -/
def Word.skipFault? : Word → Option Stop
  | .broken _ f => some f
  | _ => none

mutual

/-- The first fault that skipping a value meets. -/
def Tree.skipFault? : Tree → Option Stop
  | .string w => w.skipFault?
  | .array items => items.skipFault?
  | .object members => members.skipFault?
  | .broken _ f => some f
  | _ => none

/-- The first fault that skipping items meets. -/
def Items.skipFault? : Items → Option Stop
  | .closed => none
  | .cut _ f => some f
  | .item v rest => v.skipFault?.or rest.skipFault?

/-- The first fault that skipping members meets. -/
def Members.skipFault? : Members → Option Stop
  | .closed => none
  | .cut _ f => some f
  | .member key v rest => (key.skipFault?.or v.skipFault?).or rest.skipFault?

end

end SchemaAtlas.Json
