import SchemaAtlas.Document.Catalog
/-!
# Schema documents

A document describes a database schema: its tables with their fields and foreign
keys, the relationships between tables, and a revision number that grows with
every accepted edit. Table order is part of the document; it decides where a table
stands in the scene and in every listing.
-/

namespace SchemaAtlas

/-- A column of a table. -/
structure Field where
  name : String
  type : String
  isPrimary : Bool
deriving DecidableEq, Inhabited, Repr

/-- A column that refers to a field of some table. -/
structure ForeignKey where
  field : String
  referencesTable : String
  referencesField : String
deriving DecidableEq, Inhabited, Repr

/-- What stands under a table's name. -/
structure Table where
  fields : List Field := []
  foreignKeys : List ForeignKey := []
deriving DecidableEq, Inhabited, Repr

/-- A reference from a field of one table to a field of another. -/
structure Relationship where
  fromTable : String
  fromField : String
  toTable : String
  toField : String
deriving DecidableEq, Inhabited, Repr

/-- A schema at some revision. -/
structure Document where
  tables : Catalog Table
  relationships : List Relationship
  revision : UInt64
deriving DecidableEq

/-- The foreign key of the table `owner` as a relationship. -/
def ForeignKey.relationship (owner : String) (fk : ForeignKey) : Relationship :=
  ⟨owner, fk.field, fk.referencesTable, fk.referencesField⟩

namespace Document

/-- No table, no relationship, revision 0. -/
def empty : Document := ⟨.empty, [], 0⟩

instance : Inhabited Document := ⟨empty⟩

/-- The table of a name. -/
def table? (d : Document) (name : String) : Option Table := d.tables.get? name

/-- The table names in document order. -/
def tableNames (d : Document) : List String := d.tables.names

/-- Puts a table without foreign keys under a name. -/
def addTable (d : Document) (name : String) (fields : List Field) : Document :=
  { d with tables := d.tables.put name ⟨fields, []⟩ }

/-- Adds a relationship at the end. -/
def addRelationship (d : Document) (r : Relationship) : Document :=
  { d with relationships := d.relationships ++ [r] }

/-- The relationships that start or end at a table, in document order. -/
def relationshipsOf (d : Document) (name : String) : List Relationship :=
  d.relationships.filter fun r => r.fromTable == name || r.toTable == name

/-- The foreign keys of all tables in document order, as relationships. -/
def foreignRelationships (d : Document) : List Relationship :=
  d.tables.entries.flatMap fun e => e.2.foreignKeys.map (·.relationship e.1)

/-- A document is in step when its relationships are its foreign keys, in order. -/
def InStep (d : Document) : Prop := d.relationships = d.foreignRelationships

instance (d : Document) : Decidable d.InStep := inferInstanceAs (Decidable (_ = _))

end Document
end SchemaAtlas
