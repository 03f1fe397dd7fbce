import SchemaAtlas.Dump.Statement
/-!
# Writing a dump

The plain form of a schema as a dump: one statement for each table, one line for each
column, then the primary key and the foreign keys. Names are quoted, and a column's type
stands as it is.
-/

namespace SchemaAtlas.Dump

/-- A quoted name. -/
def quoted (name : String) : List Char := ['`'] ++ name.toList ++ ['`']

/-- The line of a column. -/
def columnLine (f : Field) : List Char := [' ', ' '] ++ quoted f.name ++ [' '] ++ f.type.toList

/-- The line of the primary key, if there is one. -/
def primaryKeyLine? (fields : List Field) : Option (List Char) :=
  match fields.filter (·.isPrimary) with
  | [] => none
  | primary => some ("  PRIMARY KEY (".toList ++ [','].intercalate (primary.map (quoted ·.name)) ++ [')'])

/-- The line of a foreign key. -/
def foreignKeyLine (k : ForeignKey) : List Char :=
  "  FOREIGN KEY (".toList ++ quoted k.field ++ ") REFERENCES ".toList ++ quoted k.referencesTable ++
    " (".toList ++ quoted k.referencesField ++ [')']

/-- The lines of a table's body. -/
def bodyLines (t : Table) : List (List Char) :=
  t.fields.map columnLine ++ (primaryKeyLine? t.fields).toList ++ t.foreignKeys.map foreignKeyLine

/-- The statement of a table. -/
def tableText (name : String) (t : Table) : List Char :=
  "CREATE TABLE ".toList ++ quoted name ++ " (\n".toList ++ [',', '\n'].intercalate (bodyLines t) ++
    "\n) ENGINE=InnoDB;\n".toList

/-- The dump of tables, in order. -/
def print (tables : List (String × Table)) : String :=
  String.ofList (tables.flatMap fun e => tableText e.1 e.2)

end SchemaAtlas.Dump
