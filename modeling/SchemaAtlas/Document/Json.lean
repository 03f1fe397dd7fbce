import SchemaAtlas.Document.Update
import SchemaAtlas.Json.Place
import SchemaAtlas.Json.Value
/-!
# The JSON form of documents and updates

A document is an object with its tables, under their names and in document order, its
relationships and its revision. Empty lists of foreign keys and of renames are left
out; where a field may be left out, reading supplies its usual value.
-/

namespace SchemaAtlas

open Json (Value Record slot)

/-! ## Writing -/

def Field.toJson (f : Field) : Value :=
  .object [("name", .string f.name), ("type", .string f.type), ("is_primary", .bool f.isPrimary)]

def ForeignKey.toJson (k : ForeignKey) : Value :=
  .object [("field", .string k.field), ("references_table", .string k.referencesTable),
    ("references_field", .string k.referencesField)]

/-- The list of fields, and the foreign keys unless there are none. -/
def Table.toJson (t : Table) : Value :=
  .object (("fields", .array (t.fields.map Field.toJson)) ::
    if t.foreignKeys.isEmpty then []
    else [("foreign_keys", .array (t.foreignKeys.map ForeignKey.toJson))])

def Relationship.toJson (r : Relationship) : Value :=
  .object [("from_table", .string r.fromTable), ("from_field", .string r.fromField),
    ("to_table", .string r.toTable), ("to_field", .string r.toField)]

def Document.toJson (d : Document) : Value :=
  .object [("tables", .object (d.tables.entries.map fun e => (e.1, e.2.toJson))),
    ("relationships", .array (d.relationships.map Relationship.toJson)),
    ("revision", .natural d.revision.toNat)]

def FieldRename.toJson (r : FieldRename) : Value :=
  .object [("from", .string r.source), ("to", .string r.target)]

def TableUpdate.toJson (u : TableUpdate) : Value :=
  .object ([("name", .string u.name), ("fields", .array (u.fields.map Field.toJson)),
      ("base_revision", .natural u.baseRevision.toNat)] ++
    if u.renames.isEmpty then []
    else [("renames", .array (u.renames.map FieldRename.toJson))])

/-! ## Reading -/

def Field.record : Record Field where
  name := "Field"
  start := ⟨"", "", false⟩
  slots :=
    [ slot "name" true Json.text fun x f => { f with name := x },
      slot "type" true Json.text fun x f => { f with type := x },
      slot "is_primary" false Json.bool fun x f => { f with isPrimary := x } ]

def ForeignKey.record : Record ForeignKey where
  name := "ForeignKey"
  start := ⟨"", "", ""⟩
  slots :=
    [ slot "field" true Json.text fun x k => { k with field := x },
      slot "references_table" true Json.text fun x k => { k with referencesTable := x },
      slot "references_field" true Json.text fun x k => { k with referencesField := x } ]

def Table.record : Record Table where
  name := "Table"
  start := {}
  slots :=
    [ slot "fields" false (Json.list Field.record.decode) fun x t => { t with fields := x },
      slot "foreign_keys" false (Json.list ForeignKey.record.decode) fun x t =>
        { t with foreignKeys := x } ]

def Relationship.record : Record Relationship where
  name := "Relationship"
  start := ⟨"", "", "", ""⟩
  slots :=
    [ slot "from_table" true Json.text fun x r => { r with fromTable := x },
      slot "from_field" true Json.text fun x r => { r with fromField := x },
      slot "to_table" true Json.text fun x r => { r with toTable := x },
      slot "to_field" true Json.text fun x r => { r with toField := x } ]

/-- A repeated table name keeps its first place and takes the last value. -/
def Document.record : Record Document where
  name := "SchemaDocument"
  start := .empty
  slots :=
    [ slot "tables" true (Json.map Table.record.decode) fun x d => { d with tables := .ofList x },
      slot "relationships" false (Json.list Relationship.record.decode) fun x d =>
        { d with relationships := x },
      slot "revision" false Json.word64 fun x d => { d with revision := x } ]

def FieldRename.record : Record FieldRename where
  name := "FieldRename"
  start := ⟨"", ""⟩
  slots :=
    [ slot "from" true Json.text fun x r => { r with source := x },
      slot "to" true Json.text fun x r => { r with target := x } ]

def TableUpdate.record : Record TableUpdate where
  name := "TableUpdate"
  start := ⟨"", [], 0, []⟩
  slots :=
    [ slot "name" true Json.text fun x u => { u with name := x },
      slot "fields" true (Json.list Field.record.decode) fun x u => { u with fields := x },
      slot "base_revision" true Json.word64 fun x u => { u with baseRevision := x },
      slot "renames" false (Json.list FieldRename.record.decode) fun x u =>
        { u with renames := x } ]

/-- Reads a document. -/
def Document.parse (s : String) : Except Json.DecodeError Document :=
  Json.parse Document.record.decode s

/-- A text that does not hold a document. -/
structure Document.Unreadable where
  text : String
  cause : Json.DecodeError

/-- What is reported: the cause and the place. -/
def Document.Unreadable.message (e : Document.Unreadable) : String :=
  Json.failureText Document.record.decode e.text e.cause

/-- Reads a document; a text that holds none is kept for the report. -/
def Document.read (s : String) : Except Document.Unreadable Document :=
  (Document.parse s).mapError fun e => ⟨s, e⟩

/-- Reads an update. -/
def TableUpdate.parse (s : String) : Except Json.DecodeError TableUpdate :=
  Json.parse TableUpdate.record.decode s

end SchemaAtlas
