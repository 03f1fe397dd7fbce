import SchemaAtlas.Document.Basic
/-!
# What is shown of one table

The side panel and the command line describe a table by its fields and by one line
for every relationship that touches it. The arrow points away from the table when
the table is where the relationship starts.
-/

namespace SchemaAtlas

/-- Which end of a relationship the described table is. -/
inductive Direction
  | outgoing
  | incoming
deriving DecidableEq, Repr

/-- The other end of a relationship, seen from the described table. -/
structure RelationLine where
  direction : Direction
  table : String
  field : String
deriving DecidableEq, Repr

/-- The arrow drawn in front of a line. -/
def Direction.arrow : Direction → String
  | .outgoing => "→"
  | .incoming => "←"

/-- An arrow, then the table and the field. -/
def RelationLine.text (l : RelationLine) : String :=
  l.direction.arrow ++ " " ++ l.table ++ "." ++ l.field

/-- A relationship seen from the table `name`; a self reference counts as outgoing. -/
def Relationship.line (name : String) (r : Relationship) : RelationLine :=
  if r.fromTable == name then ⟨.outgoing, r.toTable, r.toField⟩
  else ⟨.incoming, r.fromTable, r.fromField⟩

/-- A table with its fields and the lines of its relationships. -/
structure Description where
  name : String
  fields : List Field
  relations : List RelationLine
deriving DecidableEq, Repr

/-- Describes the table `name`, if the document has it. -/
def Document.describe? (d : Document) (name : String) : Option Description :=
  (d.table? name).map fun t => ⟨name, t.fields, (d.relationshipsOf name).map (·.line name)⟩

end SchemaAtlas
