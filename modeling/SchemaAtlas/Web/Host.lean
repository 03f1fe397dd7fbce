import SchemaAtlas.Decimal.Digits
import SchemaAtlas.Text.Escaped
import SchemaAtlas.Web.Domain.Label
/-!
# Hosts

The host of an address is a domain name or a number: four bytes, also in its short and
its octal and hexadecimal spellings, or eight pieces in brackets. Only the well-known
schemes look into the name; elsewhere it stands as it is written.
-/

namespace SchemaAtlas.Web

open Text (cutAt hexDigits)

/-- Why an address cannot be used. -/
inductive AddressError
  | noScheme
  | noHost
  | domain
  | ipv4
  | ipv6
  | hostCharacter
  | portNumber
  /-- The address has no path that could be continued. -/
  | noBase
deriving DecidableEq, Repr

def AddressError.message : AddressError → String
  | .noScheme => "relative URL without a base"
  | .noHost => "empty host"
  | .domain => "invalid international domain name"
  | .ipv4 => "invalid IPv4 address"
  | .ipv6 => "invalid IPv6 address"
  | .hostCharacter => "invalid domain character"
  | .portNumber => "invalid port number"
  | .noBase => "relative URL with a cannot-be-a-base base"

/-- The host of an address. -/
inductive Host
  | name (s : String)
  | ipv4 (n : Nat)
  | ipv6 (pieces : List Nat)
deriving DecidableEq, Inhabited, Repr

/-! ## Four bytes -/

/-- Reads digits of a base. -/
def digitsOf? (base : Nat) (cs : List Char) : Option Nat :=
  cs.foldlM (fun n c => do
    let d ← if c.toNat < 0x80 then Percent.digit? (.ofNat c.toNat) else none
    if d < base then some (n * base + d) else none) 0

/-- Reads one number of a dotted address: `0x` and a leading zero set the base. -/
def dottedNumber? : List Char → Option Nat
  | [] => none
  | '0' :: x :: cs => if x = 'x' || x = 'X' then digitsOf? 16 cs else digitsOf? 8 (x :: cs)
  | cs => digitsOf? 10 cs

/-- The parts of a dotted name; one point at the end does not count. -/
def dottedParts (cs : List Char) : List (List Char) :=
  let parts := cutAt '.' cs
  if 1 < parts.length && parts.getLast? = some [] then parts.dropLast else parts

/-- Whether the last part is a number, so that the name must be an address. -/
def endsInNumber (cs : List Char) : Bool :=
  match (dottedParts cs).getLast? with
  | none => false
  | some p => (!p.isEmpty && p.all (·.isDigit)) || (dottedNumber? p).isSome

/-- Reads four bytes. The last number fills what the others leave. -/
def readIpv4 (cs : List Char) : Except AddressError Nat :=
  let parts := dottedParts cs
  match parts.mapM dottedNumber? with
  | none => .error .ipv4
  | some ns =>
    match ns.reverse with
    | [] => .error .ipv4
    | last :: before =>
      let before := before.reverse
      if 4 < ns.length || Nat.pow 256 (4 - before.length) ≤ last || before.any (255 < ·) then .error .ipv4
      else .ok (before.zipIdx.foldl (fun all (n, i) => all + n * Nat.pow 256 (3 - i)) last)

/-! ## Eight pieces -/

/-- Reads one piece. -/
def piece? (cs : List Char) : Option Nat :=
  if cs.isEmpty || 4 < cs.length then none else digitsOf? 16 cs

/-- Reads four plain bytes as the last two pieces. -/
def quad? (cs : List Char) : Option (List Nat) := do
  let ns ← (cutAt '.' cs).mapM fun p =>
    if p.isEmpty || (1 < p.length && p.head? = some '0') then none
    else match digitsOf? 10 p with
      | some n => if n < 256 then some n else none
      | none => none
  match ns with
  | [a, b, c, d] => some [a * 256 + b, c * 256 + d]
  | _ => none

/-- Reads pieces between colons; the last part may be four bytes if `dotted`. -/
def pieces? (dotted : Bool) : List (List Char) → Option (List Nat)
  | [] => some []
  | [p] => if dotted && p.contains '.' then quad? p else (piece? p).map ([·])
  | p :: ps => do return (← piece? p) :: (← pieces? dotted ps)

/-- Splits at the first pair of colons. -/
def splitPair : List Char → Option (List Char × List Char)
  | ':' :: ':' :: r => some ([], r)
  | c :: cs => (splitPair cs).map fun (a, b) => (c :: a, b)
  | [] => none

/-- Reads eight pieces; a pair of colons stands for one or more that are zero. -/
def readIpv6 (cs : List Char) : Except AddressError (List Nat) :=
  let groups (dotted : Bool) (cs : List Char) : Option (List Nat) :=
    if cs.isEmpty then some [] else pieces? dotted (cutAt ':' cs)
  let all : Option (List Nat) :=
    match splitPair cs with
    | none => do
      let ps ← groups true cs
      if ps.length = 8 then some ps else none
    | some (a, b) => do
      let xs ← groups false a
      let ys ← groups true b
      if xs.length + ys.length < 8 then
        some (xs ++ List.replicate (8 - (xs.length + ys.length)) 0 ++ ys)
      else none
  match all with
  | some ps => .ok ps
  | none => .error .ipv6

/-- How many zeros the pieces start with. -/
def zeros (ps : List Nat) : Nat := (ps.takeWhile (· = 0)).length

/-- The place and the length of the longest run of zeros, if it is worth leaving out. -/
def longestZeros (ps : List Nat) : Option (Nat × Nat) :=
  let runs := (List.range ps.length).map fun i => (i, zeros (ps.drop i))
  let best := runs.foldl (fun (b : Nat × Nat) r => if b.2 < r.2 then r else b) (0, 0)
  if 2 ≤ best.2 then some best else none

/-- Pieces with colons between them. -/
def colons (ps : List Nat) : List Char := [':'].intercalate (ps.map hexDigits)

/-- Writes eight pieces. -/
def ipv6Text (ps : List Nat) : List Char :=
  match longestZeros ps with
  | none => colons ps
  | some (i, n) => colons (ps.take i) ++ [':', ':'] ++ colons (ps.drop (i + n))

/-! ## Any host -/

/-- The text between brackets, if the host starts with one. -/
def bracketed : List Char → Option (Except AddressError Host)
  | '[' :: cs =>
    some (if cs.getLast? = some ']' then (readIpv6 cs.dropLast).map .ipv6 else .error .ipv6)
  | _ => none

/-- Characters that no host has, whatever the scheme. -/
def outsideHost (c : Char) : Bool :=
  c.toNat = 0 ||
    ['\t', '\n', '\r', ' ', '#', '/', ':', '<', '>', '?', '@', '[', '\\', ']', '^', '|'].contains c

/-- Reads a host; in a well-known scheme it is a domain name or an address. -/
def Host.read (special : Bool) (cs : List Char) : Except AddressError Host :=
  match bracketed cs with
  | some r => r
  | none =>
    if special then
      match Domain.read cs with
      | none => .error .domain
      | some stored =>
        if stored.isEmpty then .error .noHost
        else if endsInNumber stored then (readIpv4 stored).map .ipv4
        else .ok (.name (String.ofList stored))
    else if cs.any outsideHost then .error .hostCharacter
    else .ok (.name (String.ofList (Percent.encode Percent.everywhere cs)))

/-- How a host is written. -/
def Host.text : Host → String
  | .name s => s
  | .ipv4 n => ".".intercalate ([3, 2, 1, 0].map fun i => Decimal.text (n / Nat.pow 256 i % 256))
  | .ipv6 ps => String.ofList (['['] ++ ipv6Text ps ++ [']'])

end SchemaAtlas.Web
