import SchemaAtlas.Document.Update
import SchemaAtlas.Proofs.Document.Catalog
/-!
# What an update did

The three outcomes of an update, each with all that it tells: `applyUpdate_accepted`,
`applyUpdate_exhausted` and `edited_ok`, on which both rest. The tables and the
relationships of an edited document are those before it, each with its references
followed (`entries_editedTo`, `relationships_editedTo`).
-/

namespace SchemaAtlas

open Text (trim)

namespace Document

/-- The fields that an update stores. -/
def newFields (u : TableUpdate) : List Field := u.fields.map Field.trimmed

/-- The document that an update leaves, the revision apart, when the table `table` was
`old`. -/
def editedTo (d : Document) (table : String) (u : TableUpdate) (old : Table)
    (free : trim u.name = table ∨ trim u.name ∉ d.tables.names) : Document :=
  let tables := d.tables.rename table (trim u.name) { old with fields := newFields u } free
  ({ d with tables }.retarget table (trim u.name)).refield (trim u.name)
    (validRenames old.fields (newFields u) u.renames)

/-- An update takes effect when it was made at the present revision, of a table that is
there, to an acceptable definition and a free name. -/
theorem edited_ok {d d' : Document} {table : String} {u : TableUpdate} (h : d.edited table u = .ok d') :
    ∃ old, ∃ free : trim u.name = table ∨ trim u.name ∉ d.tables.names,
      u.baseRevision = d.revision ∧ d.table? table = some old ∧
      tableFlaw? (trim u.name) u.fields = none ∧ d' = d.editedTo table u old free := by
  unfold edited at h
  split at h
  · cases h
  · next hrev =>
    split at h
    · cases h
    · next old hold =>
      dsimp only at h
      split at h
      · cases h
      · next hflaw =>
        split at h
        · next free =>
          cases h
          exact ⟨old, free, by simpa using hrev, hold, hflaw, rfl⟩
        · cases h

/-! ## Outcomes -/

/-- An accepted update took effect, and the revision is the next one. -/
theorem applyUpdate_accepted {d d' : Document} {table : String} {u : TableUpdate}
    (h : d.applyUpdate table u = .accepted d') :
    d.revision ≠ lastRevision ∧
      ∃ e, d.edited table u = .ok e ∧ d' = { e with revision := d.revision + 1 } := by
  unfold applyUpdate at h
  split at h
  · cases h
  · next e he =>
    split at h
    · cases h
    · next hr => cases h; exact ⟨hr, e, he, rfl⟩

/-- The counter fails at the last revision only. -/
theorem applyUpdate_exhausted {d d' : Document} {table : String} {u : TableUpdate}
    (h : d.applyUpdate table u = .exhausted d') : d.revision = lastRevision := by
  unfold applyUpdate at h
  split at h
  · cases h
  · split at h
    · next hr => exact hr
    · cases h

/-- The update of which the counter failed would have been in effect. -/
theorem edited_of_exhausted {d d' : Document} {table : String} {u : TableUpdate}
    (h : d.applyUpdate table u = .exhausted d') : d.edited table u = .ok d' := by
  unfold applyUpdate at h
  split at h
  · cases h
  · next e he =>
    split at h
    · cases h; exact he
    · cases h

theorem baseRevision_of_accepted {d d' : Document} {table : String} {u : TableUpdate}
    (h : d.applyUpdate table u = .accepted d') : u.baseRevision = d.revision := by
  obtain ⟨-, e, he, -⟩ := applyUpdate_accepted h
  obtain ⟨-, -, hrev, -⟩ := edited_ok he
  exact hrev

/-- Before the last revision, the next one is larger by one. -/
theorem toNat_next {r : UInt64} (h : r ≠ lastRevision) : (r + 1).toNat = r.toNat + 1 := by
  have hne : r.toNat ≠ 2 ^ 64 - 1 := fun hc => h (UInt64.toNat_inj.1 hc)
  have hlt := r.toNat_lt
  rw [UInt64.toNat_add, show (1 : UInt64).toNat = 1 from rfl, Nat.mod_eq_of_lt (by omega)]

theorem revision_of_accepted {d d' : Document} {table : String} {u : TableUpdate}
    (h : d.applyUpdate table u = .accepted d') : d'.revision.toNat = d.revision.toNat + 1 := by
  obtain ⟨hr, e, -, rfl⟩ := applyUpdate_accepted h
  exact toNat_next hr

/-! ## The edited document -/

variable {d : Document} {table : String} {u : TableUpdate} {old : Table}
  {free : trim u.name = table ∨ trim u.name ∉ d.tables.names}

/-- Each entry stays in its place. The edited one has the new name and the new fields, and
all foreign keys follow. -/
theorem entries_editedTo (hold : d.table? table = some old) :
    (d.editedTo table u old free).tables.entries =
      d.tables.entries.map fun e =>
        (SchemaAtlas.retarget table (trim u.name) e.1,
          ⟨if e.1 = table then newFields u else e.2.fields,
            e.2.foreignKeys.map fun k => (k.retarget table (trim u.name)).refield (trim u.name)
              (validRenames old.fields (newFields u) u.renames)
              (SchemaAtlas.retarget table (trim u.name) e.1)⟩) := by
  simp only [editedTo, refield, retarget, Catalog.map, Catalog.rename, Catalog.renameEntries, List.map_map]
  refine List.map_congr_left fun e he => ?_
  simp only [Function.comp_apply, Table.mapForeignKeys, List.map_map, SchemaAtlas.retarget]
  by_cases h : e.1 = table
  · -- The entry of the table holds what was looked up.
    obtain rfl : e.2 = old := by
      have hget := Catalog.get?_eq_some_iff.2 he
      rw [h] at hget
      exact Option.some.inj (hget.symm.trans hold)
    simp [h, Function.comp_def]
  · simp [h, Function.comp_def]

theorem relationships_editedTo : (d.editedTo table u old free).relationships =
    d.relationships.map fun r => (r.retarget table (trim u.name)).refield (trim u.name)
      (validRenames old.fields (newFields u) u.renames) := by
  simp only [editedTo, refield, retarget, List.map_map]
  rfl

end Document
end SchemaAtlas
