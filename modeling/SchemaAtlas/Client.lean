import SchemaAtlas.Document.Json
import SchemaAtlas.Web.Message
/-!
# The client

Fetches the schema from an endpoint, and saves edited tables to it. The endpoint's path
is a folder in which the interface lies: the document at `api/schema`, and each table at
a segment of its own below `api/table`.
-/

namespace SchemaAtlas

open Web

/-- Why the schema could not be fetched. -/
inductive FetchError
  | endpoint (e : AddressError)
  | transport (e : TransportError)
  | status (code : Nat)
  | decode (e : Document.Unreadable)

/-- Why a table could not be saved. -/
inductive SaveError
  | endpoint (e : AddressError)
  | transport (e : TransportError)
  | notFound
  | conflict
  | rejected (reason : String)
  | decode (e : Document.Unreadable)

def FetchError.message : FetchError → String
  | .endpoint e => "invalid schema endpoint: " ++ e.message
  | .transport e => "request failed: " ++ e.message
  | .status n => "server answered HTTP " ++ Decimal.text n
  | .decode e => "invalid schema document: " ++ e.message

def SaveError.message : SaveError → String
  | .endpoint e => "invalid schema endpoint: " ++ e.message
  | .transport e => "request failed: " ++ e.message
  | .notFound => "table no longer exists on the server"
  | .conflict => "schema was changed by someone else; reload before saving"
  | .rejected reason => "server rejected the update: " ++ reason
  | .decode e => "invalid response: " ++ e.message

/-- An endpoint, and the key sent with every request. -/
structure Client where
  base : Address
  key : Option String := none
deriving DecidableEq, Repr

namespace Client

/-- A client for the endpoint written in a text. -/
def new (endpoint : String) (key : Option String) : Except AddressError Client := do
  return ⟨(← Address.read (Text.trim endpoint)).asFolder, key⟩

/-! ## Addresses -/

/-- Where the document is. -/
def schemaAddress (c : Client) : Except AddressError Address :=
  c.base.continueWith ["api", "schema"]

/-- Where a table is. -/
def tableAddress (c : Client) (table : String) : Except AddressError Address := do
  return (← c.base.continueWith ["api", "table"]).push table

/-! ## Requests -/

/-- The request for the document. -/
def fetchRequest (c : Client) (a : Address) : Request where
  method := .get
  target := Address.pathText a.path
  key := c.key

/-- The request that saves a table. -/
def saveRequest (c : Client) (a : Address) (u : TableUpdate) : Request where
  method := .put
  target := Address.pathText a.path
  key := c.key
  contentType := some "application/json"
  body := u.toJson.compact

/-! ## Responses -/

/-- Reads the answer to a fetch. -/
def readFetch (r : Response) : Except FetchError Document :=
  if r.isSuccess then (Document.read r.body).mapError .decode else .error (.status r.status)

/-- Reads the answer to a save: the whole document after it. -/
def readSave (r : Response) : Except SaveError Document :=
  if r.isSuccess then (Document.read r.body).mapError .decode
  else if r.status = 404 then .error .notFound
  else if r.status = 409 then .error .conflict
  else .error (.rejected (if r.body.isEmpty then "HTTP " ++ Decimal.text r.status else r.body))

/-! ## Calls -/

/-- Fetches the document. -/
def fetch (c : Client) (n : Network) : Except FetchError Document := do
  let a ← c.schemaAddress.mapError .endpoint
  let r ← (n.send a (c.fetchRequest a)).mapError .transport
  readFetch r

/-- Saves a table under its present name. -/
def save (c : Client) (n : Network) (table : String) (u : TableUpdate) : Except SaveError Document := do
  let a ← (c.tableAddress table).mapError .endpoint
  let r ← (n.send a (c.saveRequest a u)).mapError .transport
  readSave r

end Client

/-- Fetches the document from an endpoint. -/
def fetchFrom (n : Network) (endpoint : String) (key : Option String) : Except FetchError Document := do
  let c ← (Client.new endpoint key).mapError .endpoint
  c.fetch n

/-- Saves a table to an endpoint. -/
def saveTo (n : Network) (endpoint : String) (key : Option String) (table : String) (u : TableUpdate) :
    Except SaveError Document := do
  let c ← (Client.new endpoint key).mapError .endpoint
  c.save n table u

end SchemaAtlas
