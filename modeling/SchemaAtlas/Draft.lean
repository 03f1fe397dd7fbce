import SchemaAtlas.Document.Update
/-!
# Edit drafts

A draft is an editable copy of one table. Its rows remember the name they were opened
with, so that a changed name is known to be a rename. Changes stay in the draft until
they are sent as an update.
-/

namespace SchemaAtlas

open Text (trim)

/-- An editable field. -/
structure DraftRow where
  name : String := ""
  type : String := ""
  isPrimary : Bool := false
  /-- The name the row was opened with; none for an added row. -/
  opened : Option String := none
deriving DecidableEq, Inhabited, Repr

/-- An editable table. -/
structure Draft where
  /-- The name the draft was opened with. -/
  tableName : String
  name : String
  rows : List DraftRow
  baseRevision : UInt64
  /-- What is wrong, if the last attempt to save failed. -/
  status : Option String := none
  /-- A save is under way. -/
  saving : Bool := false
deriving DecidableEq, Inhabited, Repr

/-- A row with the given parts replaced. -/
def DraftRow.set (r : DraftRow) (name type : Option String) (isPrimary : Option Bool) : DraftRow :=
  { r with name := name.getD r.name, type := type.getD r.type,
           isPrimary := isPrimary.getD r.isPrimary }

namespace Draft

/-- The type of a row that has none; also shown as a hint in an empty type field. -/
def typeHint : String := "VARCHAR(255)"

/-- Opens a draft of a table at a revision. -/
def ofTable (name : String) (t : Table) (revision : UInt64) : Draft where
  tableName := name
  name := name
  rows := t.fields.map fun f => ⟨f.name, f.type, f.isPrimary, some f.name⟩
  baseRevision := revision

/-- Changes of a draft. -/
inductive Edit
  | setName (name : String)
  /-- Changes those parts of a row that are given. -/
  | setRow (index : Nat) (name type : Option String) (isPrimary : Option Bool)
  | addField
  | removeField (index : Nat)
deriving DecidableEq, Repr

/-- Performs a change. A change of a row that is not there does nothing. -/
def apply (d : Draft) : Edit → Draft
  | .setName name => { d with name }
  | .setRow i name type isPrimary =>
    { d with rows := d.rows.modify i (·.set name type isPrimary) }
  | .addField => { d with rows := d.rows ++ [{}] }
  | .removeField i => { d with rows := d.rows.eraseIdx i }

/-- Whether a draft has the row. -/
def hasRow (d : Draft) (i : Nat) : Bool := i < d.rows.length

/-- The field of a row: trimmed, with the usual type if none is given. -/
def field (r : DraftRow) : Field :=
  ⟨trim r.name, if trim r.type = "" then typeHint else trim r.type, r.isPrimary⟩

/-- The rename of a row whose name was changed. -/
def rename? (r : DraftRow) : Option FieldRename :=
  r.opened.bind fun source => if source = (field r).name then none else some ⟨source, (field r).name⟩

/-- The update that saves a draft. -/
def toUpdate (d : Draft) : Except UpdateError TableUpdate :=
  let name := trim d.name
  let fields := d.rows.map field
  match tableFlaw? name fields with
  | some flaw => .error (.invalid flaw)
  | none => .ok ⟨name, fields, d.baseRevision, d.rows.filterMap rename?⟩

end Draft
end SchemaAtlas
