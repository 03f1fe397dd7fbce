import SchemaAtlas.Proofs.Document.References
import SchemaAtlas.Proofs.Document.Refusals
/-!
# An update as a substitution

An accepted update of a closed document rewrites it entry by entry and relationship by
relationship, each by itself (`substituted_of_accepted`). The document is closed afterwards
(`Substituted.closed`), so what two updates in a row do can be read off the two substitutions.
-/

namespace SchemaAtlas

open Text (trim)

/-- What an update calls a field of a table whose fields were `old`. -/
def newName (old : List Field) (u : TableUpdate) : String → String :=
  renamed (validRenames old (Document.newFields u) u.renames)

/-- An entry of a document once the table `table` is called `name` and has the fields `fields`,
with those it had before renamed by `ρ`. -/
def movedEntry (table name : String) (fields : List Field) (ρ : String → String) (e : String × Table) :
    String × Table :=
  if e.1 = table then
    (name, ⟨fields, e.2.foreignKeys.map fun k => { k.moved table name ρ with field := ρ k.field }⟩)
  else (e.1, ⟨e.2.fields, e.2.foreignKeys.map (·.moved table name ρ)⟩)

theorem fst_moved (table name : String) (ρ : String → String) (ref : String × String) :
    (moved table name ρ ref).1 = retarget table name ref.1 := by
  unfold moved retarget
  split <;> rfl

theorem fst_movedEntry (table name : String) (fields : List Field) (ρ : String → String)
    (e : String × Table) : (movedEntry table name fields ρ e).1 = retarget table name e.1 := by
  unfold movedEntry retarget
  split <;> rfl

namespace Document

/-- A document is its entries, its relationships and its revision. -/
theorem eq_of_parts {d d' : Document} (hentries : d.tables.entries = d'.tables.entries)
    (hrelationships : d.relationships = d'.relationships) (hrevision : d.revision = d'.revision) : d = d' := by
  have htables := Catalog.ext_entries hentries
  cases d
  cases d'
  simp_all

theorem ne_lastRevision {r : UInt64} (h : r.toNat < lastRevision.toNat) : r ≠ lastRevision := by
  rintro rfl
  exact Nat.lt_irrefl _ h

/-- The document `d'` is `d` at the next revision, with each entry and each relationship moved. -/
structure Substituted (d : Document) (table name : String) (fields : List Field) (ρ : String → String)
    (d' : Document) : Prop where
  entries : d'.tables.entries = d.tables.entries.map (movedEntry table name fields ρ)
  relationships : d'.relationships = d.relationships.map (·.moved table name ρ)
  revision : d'.revision = d.revision + 1

variable {d d' : Document} {table name : String} {fields : List Field} {ρ : String → String}

theorem substituted_of_accepted {u : TableUpdate} (hd : d.Closed) (h : d.applyUpdate table u = .accepted d') :
    ∃ old, d.table? table = some old ∧
      d.Substituted table (trim u.name) (newFields u) (newName old.fields u) d' := by
  obtain ⟨-, e, he, rfl⟩ := applyUpdate_accepted h
  obtain ⟨old, free, -, hold, -, rfl⟩ := edited_ok he
  refine ⟨old, hold, (entries_editedTo hold).trans ?_, relationships_of_closed hd free, rfl⟩
  apply List.map_congr_left
  intro entry hentry
  rw [foreignKeys_of_closed hd free hentry]
  unfold movedEntry
  by_cases htable : entry.1 = table
  · simp only [htable, SchemaAtlas.retarget, if_true]
    rfl
  · have hname : entry.1 ≠ trim u.name := ne_of_free free (Catalog.mem_names_of_mem hentry) htable
    simp only [htable, hname, SchemaAtlas.retarget, if_false]
    rfl

namespace Substituted

variable (h : d.Substituted table name fields ρ d')
include h

theorem tableNames : d'.tableNames = d.tableNames.map (SchemaAtlas.retarget table name) := by
  simp only [Document.tableNames, Catalog.names, h.entries, List.map_map]
  exact List.map_congr_left fun e _ => fst_movedEntry table name fields ρ e

/-- A table of the document is found under the name that references to it have now. -/
theorem mem_tableNames {n : String} (hn : n ∈ d.tableNames) : SchemaAtlas.retarget table name n ∈ d'.tableNames := by
  rw [h.tableNames]
  exact List.mem_map_of_mem hn

theorem foreignKeys_of_mem {e' : String × Table} (he' : e' ∈ d'.tables.entries) {k' : ForeignKey}
    (hk' : k' ∈ e'.2.foreignKeys) : ∃ e ∈ d.tables.entries, ∃ k ∈ e.2.foreignKeys,
      k'.referencesTable = SchemaAtlas.retarget table name k.referencesTable := by
  rw [h.entries] at he'
  obtain ⟨e, he, rfl⟩ := List.mem_map.1 he'
  unfold movedEntry at hk'
  split at hk' <;>
  · obtain ⟨k, hk, rfl⟩ := List.mem_map.1 hk'
    exact ⟨e, he, k, hk, fst_moved table name ρ (k.referencesTable, k.referencesField)⟩

theorem toNat_revision (hd : d.revision ≠ lastRevision) : d'.revision.toNat = d.revision.toNat + 1 := by
  rw [h.revision]
  exact toNat_next hd

/-- References follow the table, so they still lead to tables. -/
theorem closed (hd : d.Closed) : d'.Closed where
  relationships r' hr' := by
    rw [h.relationships] at hr'
    obtain ⟨r, hr, rfl⟩ := List.mem_map.1 hr'
    obtain ⟨hfrom, hto⟩ := hd.relationships r hr
    simp only [Relationship.moved, fst_moved]
    exact ⟨h.mem_tableNames hfrom, h.mem_tableNames hto⟩
  foreignKeys e' he' k' hk' := by
    obtain ⟨e, he, k, hk, href⟩ := h.foreignKeys_of_mem he' hk'
    rw [href]
    exact h.mem_tableNames (hd.foreignKeys e he k hk)

/-- Another table has its fields as before. -/
theorem table?_of_ne {n : String} {t : Table} (hn : n ≠ table) (ht : d.table? n = some t) :
    d'.table? n = some ⟨t.fields, t.foreignKeys.map (·.moved table name ρ)⟩ := by
  have hmem : (n, t) ∈ d.tables.entries := Catalog.get?_eq_some_iff.1 ht
  apply Catalog.get?_eq_some_iff.2
  rw [h.entries]
  refine List.mem_map.2 ⟨(n, t), hmem, ?_⟩
  exact if_neg hn

/-- The table itself has its new name and fields. -/
theorem table?_self {t : Table} (ht : d.table? table = some t) :
    d'.table? name = some ⟨fields, t.foreignKeys.map fun k => { k.moved table name ρ with field := ρ k.field }⟩ := by
  have hmem : (table, t) ∈ d.tables.entries := Catalog.get?_eq_some_iff.1 ht
  apply Catalog.get?_eq_some_iff.2
  rw [h.entries]
  refine List.mem_map.2 ⟨(table, t), hmem, ?_⟩
  exact if_pos rfl

end Substituted

end Document
end SchemaAtlas
