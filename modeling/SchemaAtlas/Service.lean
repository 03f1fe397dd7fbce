import SchemaAtlas.Document.Json
import SchemaAtlas.Web.MediaType
/-!
# The schema service

Serves one document. `GET /api/schema` answers with all of it, `GET /api/table/NAME`
with one table, and `PUT /api/table/NAME` updates a table and answers with the whole
document. With a key configured, requests have to carry it. Each request that gets as
far as the document leaves a line in the traffic log.

Requests are handled one after the other. An update at the last revision gets no answer
and spoils the store: from then on every request that needs it fails.
-/

namespace SchemaAtlas

open Web
open Json (Value)

/-- The served document, its key and the traffic log. -/
structure Service where
  /-- The document, unless the store is spoilt. -/
  store : Option Document
  /-- The key that requests have to carry. -/
  key : Option String := none
  log : String := ""
deriving DecidableEq

/-- When a request came in, under which number, and from whom. -/
structure Arrival where
  time : String
  id : String
  peer : String := "unknown"
deriving DecidableEq, Repr

namespace Service

/-! ## Routes -/

/-- What a request is about. -/
inductive Route
  | schema
  | table (name : String)
deriving DecidableEq, Repr

/-- The path of a target: without a host in front and a query behind. -/
def targetPath (target : String) : List Char :=
  let cs := target.toList
  let path :=
    if cs.head? = some '/' then cs
    else match splitScheme cs with
      | some (_, '/' :: '/' :: r) => r.dropWhile fun c => !endsAuthority false c
      | _ => cs
  path.takeWhile (!endsPath ·)

/-- Replaces escapes in a path, except those of the characters that would change how it
is divided or unescaped. -/
def readable (path : List Char) : List Char :=
  Text.lossy (Percent.decodeWhere (fun b => b ≠ 37 && b ≠ 47 && b ≠ 43) (Text.bytes path))

/-- A table's name, from the segment that holds it. -/
def tableName (segment : List Char) : String :=
  String.ofList (Text.lossy (Percent.decode (Text.bytes segment)))

/-- Drops a given start of a text. -/
def dropStart? : (start : List Char) → List Char → Option (List Char)
  | [], cs => some cs
  | _ :: _, [] => none
  | s :: ss, c :: cs => if s = c then dropStart? ss cs else none

/-- The route of a path. A table's name is one segment, which is not empty. -/
def route? (target : String) : Option Route :=
  let path := readable (targetPath target)
  if path = "/api/schema".toList then some .schema
  else match dropStart? "/api/table/".toList path with
    | some (c :: cs) => if (c :: cs).contains '/' then none else some (.table (tableName (c :: cs)))
    | _ => none

/-! ## Responses -/

/-- A response with a JSON body. -/
def jsonResponse (status : Nat) (v : Value) : Response := ⟨status, some "application/json", v.compact⟩

/-- A response that says why. -/
def errorResponse (status : Nat) (reason : String) : Response :=
  jsonResponse status (.object [("error", .string reason)])

def noRoute : Response := ⟨404, none, ""⟩
/-- The answer to a body that cannot be read. The framework gives it before the store is looked at; it
follows from the request alone, and its text is left out here. -/
def badBody : Response := ⟨400, none, ""⟩
def unauthorized : Response := ⟨401, none, "unauthorized"⟩
def spoilt : Response := ⟨500, none, "schema store poisoned"⟩

/-- A table as it is answered, with its name and always with its foreign keys. -/
def tableJson (name : String) (t : Table) : Value :=
  .object [("name", .string name), ("fields", .array (t.fields.map Field.toJson)),
    ("foreign_keys", .array (t.foreignKeys.map ForeignKey.toJson))]

/-- The status of a refused update. -/
def refusalStatus : UpdateError → Nat
  | .unknownTable _ => 404
  | .revisionConflict _ _ => 409
  | .nameTaken _ => 422
  | .invalid _ => 422

/-! ## Handling requests -/

/-- Whether a request carries the key, if one is needed. -/
def authorizes (s : Service) (r : Request) : Bool :=
  match s.key with
  | none => true
  | some k => match r.key with
    | some h => isReadableHeader h && h == k
    | none => false

/-- One line of the log. -/
def logLine (a : Arrival) (entry : String) : String :=
  a.time ++ " | RID=" ++ a.id ++ " " ++ entry ++ "\n"

/-- The service with one more line in its log. -/
def logged (s : Service) (a : Arrival) (entry : String) : Service :=
  { s with log := s.log ++ logLine a entry }

/-- What became of a request: a response, or none when handling it failed. -/
abbrev Answer := Option Response × Service

/-- The sizes of a document in the log. -/
def sizes (d : Document) : String :=
  s!"tables={d.tables.size} rels={d.relationships.length} rev={d.revision.toNat}"

/-- Answers with the whole document. -/
def getSchema (s : Service) (a : Arrival) (d : Document) : Answer :=
  (some (jsonResponse 200 d.toJson), s.logged a s!"GET /api/schema from {a.peer} {sizes d}")

/-- Answers with one table. -/
def getTable (s : Service) (a : Arrival) (d : Document) (name : String) : Answer :=
  match d.table? name with
  | some t =>
    (some (jsonResponse 200 (tableJson name t)), s.logged a s!"GET /api/table/{name} from {a.peer} OK")
  | none =>
    (some (errorResponse 404 "Table not found"),
      s.logged a s!"GET /api/table/{name} from {a.peer} NOT FOUND")

/-- Updates a table. -/
def putTable (s : Service) (a : Arrival) (d : Document) (name : String) (u : TableUpdate) : Answer :=
  match d.applyUpdate name u with
  | .accepted next =>
    (some (jsonResponse 200 next.toJson),
      { s with store := some next }.logged a
        s!"PUT /api/table/{name} -> {u.name} OK rev={next.revision.toNat}")
  | .refused e =>
    (some (errorResponse (refusalStatus e) e.message), s.logged a s!"PUT /api/table/{name} ERR {e.message}")
  | .exhausted _ => (none, { s with store := none })

/-- What a request asks of the document. -/
inductive Task
  | getSchema
  | getTable (name : String)
  | putTable (name : String) (u : TableUpdate)

/-- The update in a body, which has to be declared as JSON. -/
def bodyUpdate? (r : Request) : Option TableUpdate :=
  if (r.contentType.map MediaType.isJson).getD false then (TableUpdate.parse r.body).toOption else none

/-- What a request asks for. A body is read before anything else is looked at. -/
def task (r : Request) : Except Response Task :=
  match r.method, route? r.target with
  | .get, some .schema => .ok .getSchema
  | .get, some (.table name) => .ok (.getTable name)
  | .put, some (.table name) =>
    match bodyUpdate? r with
    | some u => .ok (.putTable name u)
    | none => .error badBody
  | _, _ => .error noRoute

/-- Carries out a task on the document. -/
def perform (s : Service) (a : Arrival) (d : Document) : Task → Answer
  | .getSchema => s.getSchema a d
  | .getTable name => s.getTable a d name
  | .putTable name u => s.putTable a d name u

/-- Handles a request. -/
def handle (s : Service) (a : Arrival) (r : Request) : Answer :=
  match task r with
  | .error response => (some response, s)
  | .ok t =>
    if !s.authorizes r then (some unauthorized, s)
    else match s.store with
      | none => (some spoilt, s)
      | some d => s.perform a d t

end Service
end SchemaAtlas
