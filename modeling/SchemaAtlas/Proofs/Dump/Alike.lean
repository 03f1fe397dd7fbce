import SchemaAtlas.Proofs.Dump.Clauses
/-!
# Documents that differ in types only

Two dumps are compared clause by clause. Where corresponding clauses declare the same, but for the
types of the columns, the documents are alike: the same tables, fields, flags, keys and relationships
in the same order, and related types (`ofStatements_alike`). Where corresponding clauses declare
columns of the same names at least, so do the documents (`ofStatements_outline`).
-/

namespace SchemaAtlas

variable {R : String → String → Prop}

/-- Fields of one name, with related types. -/
def Field.Outline (R : String → String → Prop) (f g : Field) : Prop := f.name = g.name ∧ R f.type g.type

/-- Fields that differ in their types only, which are related. -/
def Field.Alike (R : String → String → Prop) (f g : Field) : Prop := f.Outline R g ∧ f.isPrimary = g.isPrimary

/-- Tables that differ in the types of their fields only. -/
structure Table.Alike (R : String → String → Prop) (t u : Table) : Prop where
  fields : List.Forall₂ (Field.Alike R) t.fields u.fields
  foreignKeys : t.foreignKeys = u.foreignKeys

/-- Documents of the same table names in the same order, whose tables have the same field names in the same order. -/
def Document.Outline (R : String → String → Prop) (d e : Document) : Prop :=
  List.Forall₂ (Catalog.Related fun t u => List.Forall₂ (Field.Outline R) t.fields u.fields) d.tables.entries e.tables.entries

/-- Documents that differ in the types of fields only. -/
structure Document.Alike (R : String → String → Prop) (d e : Document) : Prop where
  tables : List.Forall₂ (Catalog.Related (Table.Alike R)) d.tables.entries e.tables.entries
  relationships : d.relationships = e.relationships
  revision : d.revision = e.revision

namespace Dump

open Text

/-- A name that a column can have: there is no blank in it. -/
def IsColumnName (n : String) : Prop := ∀ c ∈ n.toList, isBlank c = false

instance (n : String) : Decidable (IsColumnName n) :=
  decidable_of_iff (n.toList.all (!isBlank ·) = true) (by simp [IsColumnName])

/-- Clauses that declare the same, but for the type of a column. Primary keys list the same columns. -/
inductive Clause.Alike (R : String → String → Prop) : Clause → Clause → Prop
  | column {f g : Field} (hname : IsColumnName f.name) (h : f.Alike R g) : Alike R (.column f) (.column g)
  | foreignKey (k : ForeignKey) : Alike R (.foreignKey k) (.foreignKey k)
  | primaryKey {ns ms : List String} (h : ∀ n, IsColumnName n → (n ∈ ns ↔ n ∈ ms)) : Alike R (.primaryKey ns) (.primaryKey ms)
  | other : Alike R .other .other

/-- The column that a clause declares. -/
def Clause.column? : Clause → Option Field
  | .column f => some f
  | _ => none

/-- Clauses that declare columns of one name, or none at all. -/
def Clause.Outline (R : String → String → Prop) (c d : Clause) : Prop := Option.Rel (Field.Outline R) c.column? d.column?

theorem columns_eq (s : Statement) : s.columns = s.clauses.filterMap Clause.column? := rfl

section Statements

variable {s t : Statement}

theorem columns_alike (h : List.Forall₂ (Clause.Alike R) s.clauses t.clauses) :
    List.Forall₂ (fun f g => IsColumnName f.name ∧ f.Alike R g) s.columns t.columns := by
  rw [columns_eq, columns_eq]
  refine List.rel_filterMap (fun c d hcd => ?_) h
  cases hcd with
  | column hname h => exact .some ⟨hname, h⟩
  | foreignKey | primaryKey | other => exact .none

theorem foreignKeys_alike (h : List.Forall₂ (Clause.Alike R) s.clauses t.clauses) : s.foreignKeys = t.foreignKeys := by
  rw [Statement.foreignKeys, Statement.foreignKeys]
  generalize s.clauses = cs at h
  generalize t.clauses = ds at h
  induction h with
  | nil => rfl
  | cons hcd _ ih => cases hcd <;> simp [ih]

theorem primaryColumns_alike (h : List.Forall₂ (Clause.Alike R) s.clauses t.clauses) {n : String} (hn : IsColumnName n) :
    n ∈ s.primaryColumns ↔ n ∈ t.primaryColumns := by
  rw [Statement.primaryColumns, Statement.primaryColumns]
  generalize s.clauses = cs at h
  generalize t.clauses = ds at h
  induction h with
  | nil => rfl
  | cons hcd _ ih =>
    rw [List.flatMap_cons, List.flatMap_cons, List.mem_append, List.mem_append, ih]
    cases hcd with
    | primaryKey h => rw [h n hn]
    | column | foreignKey | other => rfl

theorem table_alike (h : List.Forall₂ (Clause.Alike R) s.clauses t.clauses) : s.table.Alike R t.table where
  fields := by
    rw [Statement.table, Statement.table, List.forall₂_map_left_iff, List.forall₂_map_right_iff]
    refine (columns_alike h).imp ?_
    rintro f g ⟨hname, hfg, hprimary⟩
    refine ⟨hfg, ?_⟩
    -- The lists may differ in names that no column has.
    have hlisted : s.primaryColumns.contains f.name = t.primaryColumns.contains g.name := by
      rw [Bool.eq_iff_iff, List.contains_iff_mem, List.contains_iff_mem, ← hfg.1]
      exact primaryColumns_alike h hname
    simp only [hprimary, hlisted]
  foreignKeys := foreignKeys_alike h

theorem fields_outline (h : List.Forall₂ (Clause.Outline R) s.clauses t.clauses) :
    List.Forall₂ (Field.Outline R) s.table.fields t.table.fields := by
  rw [Statement.table, Statement.table, List.forall₂_map_left_iff, List.forall₂_map_right_iff, columns_eq, columns_eq]
  exact List.rel_filterMap (fun c d hcd => hcd) h

end Statements

/-- Statements about one table, whose clauses are related one by one. -/
def Statement.Matches (S : Clause → Clause → Prop) (s t : Statement) : Prop :=
  s.name = t.name ∧ List.Forall₂ S s.clauses t.clauses

variable {ss ts : List Statement}

theorem ofStatements_outline (h : List.Forall₂ (Statement.Matches (Clause.Outline R)) ss ts) :
    (ofStatements ss).Outline R (ofStatements ts) := by
  refine Catalog.related_ofList ?_
  rw [List.forall₂_map_left_iff, List.forall₂_map_right_iff]
  exact h.imp fun s t hst => ⟨hst.1, fields_outline hst.2⟩

/-- Statements whose clauses are alike give documents that are alike. -/
theorem ofStatements_alike (h : List.Forall₂ (Statement.Matches (Clause.Alike R)) ss ts) :
    (ofStatements ss).Alike R (ofStatements ts) where
  tables := by
    refine Catalog.related_ofList ?_
    rw [List.forall₂_map_left_iff, List.forall₂_map_right_iff]
    exact h.imp fun s t hst => ⟨hst.1, table_alike hst.2⟩
  relationships := by
    show ss.flatMap _ = ts.flatMap _
    induction h with
    | nil => rfl
    | @cons s t ss ts hst _ ih =>
      rw [List.flatMap_cons, List.flatMap_cons, ih, Statement.relationships, Statement.relationships, hst.1,
        foreignKeys_alike hst.2]
  revision := rfl

/-- Declarations of one table, whose definitions are related one by one. -/
def Declaration.Matches (S : List Char → List Char → Prop) (d d' : Declaration) : Prop :=
  d.name = d'.name ∧ List.Forall₂ S (definitions d.body) (definitions d'.body)

theorem statements_of_matches {S : List Char → List Char → Prop} {T : Clause → Clause → Prop} {cs cs' : List Char}
    (hread : ∀ p p', S p p' → T (Clause.read p) (Clause.read p'))
    (h : List.Forall₂ (Declaration.Matches S) (declarations cs) (declarations cs')) :
    List.Forall₂ (Statement.Matches T) (statements cs) (statements cs') := by
  rw [statements_eq, statements_eq, List.forall₂_map_left_iff, List.forall₂_map_right_iff]
  refine h.imp fun d d' hd => ⟨congrArg String.ofList hd.1, ?_⟩
  show List.Forall₂ T (clauses d.body) (clauses d'.body)
  rw [clauses_eq, clauses_eq, List.forall₂_map_left_iff, List.forall₂_map_right_iff]
  exact hd.2.imp hread

/-- What is read from one definition is alike, whatever types are compared by. -/
theorem read_alike (hR : ∀ t, R t t) (p : List Char) : (Clause.read p).Alike R (Clause.read p) := by
  cases h : Clause.read p with
  | column f => exact .column (blank_not_mem_of_read h) ⟨⟨rfl, hR _⟩, rfl⟩
  | foreignKey k => exact .foreignKey k
  | primaryKey ns => exact .primaryKey fun _ _ => Iff.rfl
  | other => exact .other

end Dump
end SchemaAtlas
