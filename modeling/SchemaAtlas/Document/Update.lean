import SchemaAtlas.Document.Basic
import SchemaAtlas.Text.Blank
/-!
# Edits of one table

An update replaces the name and the fields of a table, provided that it was made
at the document's current revision. Names and types are stored trimmed. References
follow: those to the table take its new name, and those to a renamed field take
the field's new name. The table keeps its place.

An accepted update raises the revision by one. The revision is a 64-bit number; at
the last one an update still takes effect but the counter has no next value
(`UpdateOutcome.exhausted`).
-/

namespace SchemaAtlas

open Text (trim)

/-- A field that kept its row but changed its name. -/
structure FieldRename where
  source : String
  target : String
deriving DecidableEq, Inhabited, Repr

/-- A new version of a table, made at `baseRevision`. -/
structure TableUpdate where
  name : String
  fields : List Field
  baseRevision : UInt64
  renames : List FieldRename
deriving DecidableEq, Inhabited, Repr

/-- Why a table definition is not acceptable. -/
inductive Flaw
  | noTableName
  /-- The field at this place, counted from one, has no name. -/
  | unnamedField (number : Nat)
  | duplicateField (name : String)
deriving DecidableEq, Repr

/-- Why an update is refused. -/
inductive UpdateError
  | unknownTable (name : String)
  | revisionConflict (expected found : UInt64)
  | nameTaken (name : String)
  | invalid (flaw : Flaw)
deriving DecidableEq, Repr

def Flaw.message : Flaw → String
  | .noTableName => "table name is empty"
  | .unnamedField n => s!"field #{n} has no name"
  | .duplicateField name => s!"duplicate field name {name}"

def UpdateError.message : UpdateError → String
  | .unknownTable name => s!"table not found: {name}"
  | .revisionConflict expected found =>
    s!"schema changed since it was loaded (expected revision {expected.toNat}, found {found.toNat})"
  | .nameTaken name => s!"a table named {name} already exists"
  | .invalid flaw => s!"invalid table: {flaw.message}"

/-! ## Acceptable definitions -/

/-- The first field, from number `n` on, whose trimmed name is empty or in `seen`. -/
def fieldFlaw? (n : Nat) (seen : List String) : List Field → Option Flaw
  | [] => none
  | f :: fs =>
    let name := trim f.name
    if name = "" then some (.unnamedField n)
    else if name ∈ seen then some (.duplicateField name)
    else fieldFlaw? (n + 1) (name :: seen) fs

/-- What is wrong with a table definition: first its name, then its fields in order. -/
def tableFlaw? (name : String) (fields : List Field) : Option Flaw :=
  if trim name = "" then some .noTableName else fieldFlaw? 1 [] fields

/-! ## References follow -/

/-- Trims a field's name and type. -/
def Field.trimmed (f : Field) : Field := ⟨trim f.name, trim f.type, f.isPrimary⟩

/-- The renames that count: trimmed, between different names, from a field of the
old table to a field of the new one. -/
def validRenames (old new : List Field) (renames : List FieldRename) : List FieldRename :=
  (renames.map fun r => ⟨trim r.source, trim r.target⟩).filter fun r =>
    r.source != r.target && old.any (·.name == r.source) && new.any (·.name == r.target)

/-- The new name of a field; the last rename of a field wins. -/
def renamed (renames : List FieldRename) (field : String) : String :=
  match renames.reverse.find? (·.source == field) with
  | some r => r.target
  | none => field

/-- The table reference `t` after `old` was renamed to `new`. -/
def retarget (old new t : String) : String := if t = old then new else t

/-- Follows a renamed table. -/
def Relationship.retarget (old new : String) (r : Relationship) : Relationship :=
  { r with fromTable := SchemaAtlas.retarget old new r.fromTable
           toTable := SchemaAtlas.retarget old new r.toTable }

/-- Follows a renamed table. -/
def ForeignKey.retarget (old new : String) (fk : ForeignKey) : ForeignKey :=
  { fk with referencesTable := SchemaAtlas.retarget old new fk.referencesTable }

/-- Follows renamed fields of `table`. -/
def Relationship.refield (table : String) (rs : List FieldRename) (r : Relationship) :
    Relationship :=
  { r with fromField := if r.fromTable = table then renamed rs r.fromField else r.fromField
           toField := if r.toTable = table then renamed rs r.toField else r.toField }

/-- Follows renamed fields of `table`, as a foreign key of the table `owner`. -/
def ForeignKey.refield (table : String) (rs : List FieldRename) (owner : String)
    (fk : ForeignKey) : ForeignKey :=
  { fk with field := if owner = table then renamed rs fk.field else fk.field
            referencesField :=
              if fk.referencesTable = table then renamed rs fk.referencesField
              else fk.referencesField }

/-- Applies `f` to each foreign key. -/
def Table.mapForeignKeys (f : ForeignKey → ForeignKey) (t : Table) : Table :=
  { t with foreignKeys := t.foreignKeys.map f }

namespace Document

/-- All references follow the renaming of the table `old` to `new`. -/
def retarget (old new : String) (d : Document) : Document :=
  { d with relationships := d.relationships.map (·.retarget old new)
           tables := d.tables.map fun _ t => t.mapForeignKeys (·.retarget old new) }

/-- All references follow the renaming of fields of `table`, whose name is already
the new one. -/
def refield (table : String) (rs : List FieldRename) (d : Document) : Document :=
  { d with relationships := d.relationships.map (·.refield table rs)
           tables := d.tables.map fun owner t => t.mapForeignKeys (·.refield table rs owner) }

/-! ## Applying an update -/

/-- The document after an update of the table `table`, the revision apart. The
checks come in this order: revision, table, definition, name. -/
def edited (d : Document) (table : String) (u : TableUpdate) : Except UpdateError Document :=
  if u.baseRevision ≠ d.revision then .error (.revisionConflict u.baseRevision d.revision)
  else match d.table? table with
  | none => .error (.unknownTable table)
  | some old =>
    let name := trim u.name
    match tableFlaw? name u.fields with
    | some flaw => .error (.invalid flaw)
    | none =>
      if free : name = table ∨ name ∉ d.tables.names then
        let fields := u.fields.map Field.trimmed
        let rs := validRenames old.fields fields u.renames
        let tables := d.tables.rename table name { old with fields } free
        .ok (({ d with tables }.retarget table name).refield name rs)
      else .error (.nameTaken name)

end Document

/-- What becomes of an update. -/
inductive UpdateOutcome
  /-- Refused; the document stays as it is. -/
  | refused (error : UpdateError)
  /-- Accepted; `document` has the next revision. -/
  | accepted (document : Document)
  /-- In effect, but there is no next revision. -/
  | exhausted (document : Document)
deriving DecidableEq

namespace Document

/-- The last revision. -/
def lastRevision : UInt64 := 0xFFFFFFFFFFFFFFFF

/-- Applies an update to the table `table`. -/
def applyUpdate (d : Document) (table : String) (u : TableUpdate) : UpdateOutcome :=
  match d.edited table u with
  | .error e => .refused e
  | .ok d' =>
    if d.revision = lastRevision then .exhausted d'
    else .accepted { d' with revision := d.revision + 1 }

end Document

/-- The document after an update, whatever became of it. -/
def UpdateOutcome.documentFrom (before : Document) : UpdateOutcome → Document
  | .refused _ => before
  | .accepted d => d
  | .exhausted d => d

end SchemaAtlas
