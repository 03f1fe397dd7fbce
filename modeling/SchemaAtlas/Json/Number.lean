import SchemaAtlas.Decimal.Digits
import SchemaAtlas.Json.Fault
/-!
# Reading JSON numbers

A number without fraction and exponent that fits 64 bits is read exactly. Any other
number is read in double precision: the digits that fit 64 bits give an integer,
which is multiplied or divided by a power of ten. Digits beyond those 64 bits only
count as places. A number that is too large for double precision has no value.
-/

namespace SchemaAtlas.Json

/-- A number as it was read. -/
inductive Number
  /-- Below 2^64. -/
  | natural (n : Nat)
  /-- The number `-n`, where `n` is from 1 to 2^63. -/
  | negative (n : Nat)
  | real (x : Float)
  /-- Too large, with the text after what is read of it. -/
  | tooLarge (ahead : List Char)
deriving Inhabited

/-- The outcome of reading a number: a number and the text after it, or a fault, which
may be another one when the number is only skipped. -/
inductive NumberRead
  | number (n : Number) (rest : List Char)
  | broken (read skip : Stop)

/-- The text ends in a number. Where the number is only skipped, that is not told apart
from a character that does not belong to it. -/
def NumberRead.ended : NumberRead := .broken (.atEnd .endInValue) (.atEnd .badNumber)

/-- The next character does not belong to the number. -/
def NumberRead.refused (ahead : List Char) : NumberRead :=
  .broken (.upon .badNumber ahead) (.upon .badNumber ahead)

/-- The largest number of 64 bits. -/
def maxWord : Nat := Nat.pow 2 64 - 1

/-- Takes digits as long as the number stays below 2^64. -/
def takeWord (n : Nat) : List Char → Nat × List Char
  | [] => (n, [])
  | c :: cs =>
    if c.isDigit && n * 10 + Decimal.digitValue c ≤ maxWord then
      takeWord (n * 10 + Decimal.digitValue c) cs
    else (n, c :: cs)

/-- `n * 10 ^ e` in double precision, before the text `rest`. Powers beyond 10^308 are
applied in steps of 10^308; `fuel` bounds their number. -/
def scaled (negative : Bool) (rest : List Char) : (fuel : Nat) → Float → Int → Number
  | 0, _, _ => .real (if negative then -0.0 else 0.0)
  | fuel + 1, x, e =>
    if e.natAbs ≤ 308 then
      let p := Float.ofScientific 1 false e.natAbs
      let y := if 0 ≤ e then x * p else x / p
      if 0 ≤ e && y.isInf then .tooLarge rest else .real (if negative then -y else y)
    else if x == 0.0 then .real (if negative then -x else x)
    else if 0 ≤ e then .tooLarge rest
    else scaled negative rest fuel (x / 1e308) (e + 308)

/-- The integer `n`, shifted by `e` decimal places, in double precision. A number below
2^64 shifted by more than a few hundred places is zero, so a few steps suffice. -/
def ofPlaces (negative : Bool) (n : Nat) (e : Int) (rest : List Char) : Number :=
  scaled negative rest 16 (UInt64.ofNat n).toFloat (max e (-4000))

/-- The largest exponent that is counted. -/
def maxExponent : Nat := Nat.pow 2 31 - 1

/-- What follows the digit with which an exponent gets too large. -/
def afterExcess (e : Nat) : List Char → List Char
  | [] => []
  | c :: cs =>
    if c.isDigit && e * 10 + Decimal.digitValue c ≤ maxExponent then
      afterExcess (e * 10 + Decimal.digitValue c) cs
    else cs

/-- Reads the exponent after its mark, for the integer `n` shifted by `places`. -/
def readExponent (negative : Bool) (n : Nat) (places : Int) (cs : List Char) : NumberRead :=
  let (down, cs) := match cs with
    | '+' :: r => (false, r)
    | '-' :: r => (true, r)
    | r => (false, r)
  match cs with
  | [] => .ended
  | c :: _ =>
    if !c.isDigit then .refused cs
    else
      let e := Decimal.value 0 (cs.takeWhile Char.isDigit)
      let rest := cs.dropWhile Char.isDigit
      if e ≤ maxExponent then
        .number (ofPlaces negative n (if down then places - e else places + e) rest) rest
      else if n != 0 && !down then .number (.tooLarge (afterExcess 0 cs)) rest
      else .number (.real (if negative then -0.0 else 0.0)) rest

/-- Reads what may follow the digits of a number that is read in double precision. -/
def readScale (negative : Bool) (n : Nat) (places : Int) (cs : List Char) : NumberRead :=
  match cs with
  | 'e' :: r => readExponent negative n places r
  | 'E' :: r => readExponent negative n places r
  | cs => .number (ofPlaces negative n places cs) cs

/-- Reads the fraction after its point, for the integer `n` shifted by `places`. -/
def readFraction (negative : Bool) (n : Nat) (places : Int) (cs : List Char) : NumberRead :=
  match cs with
  | [] => .ended
  | c :: _ =>
    if !c.isDigit then .refused cs
    else
      let (m, rest) := takeWord n cs
      readScale negative m (places - (cs.length - rest.length : Nat))
        (rest.dropWhile Char.isDigit)

/-- The number without fraction and exponent. Minus zero and numbers below -2^63 are
read in double precision. -/
def whole (negative : Bool) (n : Nat) : Number :=
  if !negative then .natural n
  else if 0 < n && n ≤ Nat.pow 2 63 then .negative n
  else .real (-(UInt64.ofNat n).toFloat)

/-- Reads a number whose sign is read. -/
def readUnsigned (negative : Bool) (cs : List Char) : NumberRead :=
  match cs with
  | [] => .ended
  | c :: r =>
    if !c.isDigit then .refused cs
    else if c == '0' && (r.head?.map Char.isDigit).getD false then .refused r
    else
      let (n, rest) := takeWord 0 cs
      let extra := rest.takeWhile Char.isDigit
      match rest.dropWhile Char.isDigit with
      | '.' :: r => readFraction negative n extra.length r
      | rest =>
        match extra, rest with
        | [], 'e' :: r => readExponent negative n 0 r
        | [], 'E' :: r => readExponent negative n 0 r
        | [], rest => .number (whole negative n) rest
        | _ :: _, rest => readScale negative n extra.length rest

end SchemaAtlas.Json
