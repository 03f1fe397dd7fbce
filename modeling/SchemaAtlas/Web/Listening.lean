import SchemaAtlas.Web.Host
/-!
# Listening

Where a machine can listen that is connected to nothing. It has the addresses that
every machine has and knows one name, its own; all other names would have to be asked
for. An address is a number as in `Web.Host`, eight pieces with or without brackets.
-/

namespace SchemaAtlas.Web

open Text (cutAt)

/-- Why an address cannot be listened on. -/
inductive ListenError
  /-- Nothing can have this name. -/
  | noSuchName
  /-- There is nobody to ask for the name. -/
  | unresolved
  /-- The address belongs to another machine. -/
  | elsewhere
  /-- Somebody listens there already. -/
  | inUse
deriving DecidableEq, Repr

def ListenError.message : ListenError → String
  | .noSuchName => "failed to lookup address information: Name or service not known"
  | .unresolved => "failed to lookup address information: Temporary failure in name resolution"
  | .elsewhere => "Cannot assign requested address (os error 99)"
  | .inUse => "Address already in use (os error 98)"

/-- Characters of the names of machines. -/
def isNameCharacter (c : Char) : Bool := c.isAlphanum || c == '-' || c == '_'

/-- Whether a name can be asked for: labels with points between them, the first of which
does not start with a hyphen. -/
def isMachineName (cs : List Char) : Bool :=
  cs.head? ≠ some '-' && cs ≠ [] &&
    (dottedParts cs).all fun l => l ≠ [] && l.length < 64 && l.all isNameCharacter

/-- Addresses of four bytes that every machine has: all of its own, those that lead back
to itself, and those that it shares with others. -/
def isOwnIpv4 (n : Nat) : Bool :=
  let first := n / Nat.pow 256 3
  n = 0 || first = 127 || (224 ≤ first && first < 240) || n = Nat.pow 256 4 - 1

/-- Addresses of eight pieces that every machine has. The last two pieces may be an
address of four bytes. -/
def isOwnIpv6 : List Nat → Bool
  | [0, 0, 0, 0, 0, 0xFFFF, a, b] => isOwnIpv4 (a * 65536 + b)
  | ps => ps = List.replicate 8 0 || ps = List.replicate 7 0 ++ [1]

/-- The address that a text stands for. -/
def machineAddress (cs : List Char) : Except ListenError Host :=
  match bracketed cs with
  | some (.ok h) => .ok h
  | _ =>
    match readIpv6 cs, if cs.getLast? = some '.' then .error .ipv4 else readIpv4 cs with
    | .ok ps, _ => .ok (.ipv6 ps)
    | _, .ok n => .ok (.ipv4 n)
    | _, _ =>
      if cs.map Char.toLower = "localhost".toList then .ok (.ipv4 0x7F000001)
      else .error (if isMachineName cs then .unresolved else .noSuchName)

/-- Listens on an address, which is `free` unless somebody else does. -/
def listen (address : String) (free : Bool) : Except ListenError Host := do
  let h ← machineAddress address.toList
  let own := match h with
    | .ipv4 n => isOwnIpv4 n
    | .ipv6 ps => isOwnIpv6 ps
    | .name _ => false
  if !own then throw .elsewhere
  else if !free then throw .inUse
  else return h

example : (listen "127.1" true).toOption = some (.ipv4 0x7F000001) := by decide +kernel
example : (listen "192.0.2.1" true).toOption = none := by decide +kernel

end SchemaAtlas.Web
