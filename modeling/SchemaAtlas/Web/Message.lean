import SchemaAtlas.Web.Address
/-!
# Requests and responses

What the client sends and the server answers, as far as the schema interface goes: a
method, a target, the key header, a content type and a body.
-/

namespace SchemaAtlas.Web

/-- What a request asks for. -/
inductive Method
  | get
  | put
  | other (name : String)
deriving DecidableEq, Repr

def Method.ofText : String → Method
  | "GET" => .get
  | "PUT" => .put
  | s => .other s

def Method.text : Method → String
  | .get => "GET"
  | .put => "PUT"
  | .other s => s

/-- A request, as it is sent to a host. -/
structure Request where
  method : Method
  /-- The path, perhaps with a query. -/
  target : String
  /-- The value of the key header. -/
  key : Option String := none
  contentType : Option String := none
  body : String := ""
deriving DecidableEq, Repr

/-- The answer to a request. -/
structure Response where
  status : Nat
  contentType : Option String := none
  body : String := ""
deriving DecidableEq, Repr

/-- Whether a request was carried out. -/
def Response.isSuccess (r : Response) : Bool := 200 ≤ r.status && r.status < 300

/-- Why no answer comes back. -/
inductive TransportError
  /-- The request could not be sent, or was not answered. -/
  | unanswered (a : Address)
  /-- No request can be made for the address. -/
  | unsendable (a : Address)
  /-- The key cannot stand in a header. -/
  | badKey
deriving DecidableEq, Repr

/-- What is reported; a readable user and password are left out. -/
def TransportError.message : TransportError → String
  | .unanswered a => s!"error sending request for url ({a.anonymous.text})"
  | .unsendable a => s!"builder error for url ({a.anonymous.text})"
  | .badKey => "builder error"

/-- Sends a request to the host of an address; without an answer there is no response. -/
def Network := Address → Request → Option Response

/-- The network in which nobody answers. -/
def Network.silent : Network := fun _ _ => none

/-- Whether a text can stand in a header: no control characters except tabs. -/
def isHeaderText (s : String) : Bool :=
  s.toList.all fun c => c = '\t' || (0x20 ≤ c.toNat && c.toNat ≠ 0x7F)

/-- Whether a header is readable as text: blanks, tabs and visible ASCII only. -/
def isReadableHeader (s : String) : Bool :=
  s.toList.all fun c => c = '\t' || (0x20 ≤ c.toNat && c.toNat < 0x7F)

/-- The longest address that a request is made for, in bytes. -/
def longestTarget : Nat := 65534

/-- The text of the host; empty if there is none. -/
def Address.hostText (a : Address) : String := (a.authority.map (·.host.text)).getD ""

/-- Whether a request can be made for an address: its scheme is one that requests have,
its host has no characters that are escaped elsewhere, and it is not too long. -/
def isSendable (a : Address) : Bool :=
  (a.scheme == "http" || a.scheme == "https") &&
    !a.hostText.toList.any (['"', '`', '{', '}'].contains ·) &&
    a.anonymous.text.utf8ByteSize ≤ longestTarget

/-- Sends a request if it can be made at all. An address without a host is noticed before
a bad key, and any other fault of it afterwards. -/
def Network.send (n : Network) (a : Address) (r : Request) : Except TransportError Response :=
  if a.hostText.isEmpty then .error (.unsendable a)
  else if !(r.key.map isHeaderText).getD true then .error .badKey
  else if !isSendable a then .error (.unsendable a)
  else
    match n a r with
    | some answer => .ok answer
    | none => .error (.unanswered a)

end SchemaAtlas.Web
