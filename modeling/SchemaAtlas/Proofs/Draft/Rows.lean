import SchemaAtlas.Draft
import SchemaAtlas.Proofs.Document.References
import SchemaAtlas.Proofs.Text.Trim
/-!
# References follow their rows

A row of a draft remembers the name it was opened with. Whatever is edited, no two rows
remember the same name (`opened_sublist`), so the renames that a draft sends have at most
one for each field, and a reference to a field ends up at the row that was opened for it
(`references_follow_rows`).
-/

namespace SchemaAtlas

open Text (trim trim_trim)

namespace Draft

/-! ## What rows remember -/

/-- The draft after edits, one after the other. -/
def edit (d : Draft) (es : List Edit) : Draft := es.foldl apply d

theorem saving_apply (d : Draft) (x : Edit) : (d.apply x).saving = d.saving := by
  cases x <;> rfl

/-- The names that the rows were opened with. -/
def openedNames (d : Draft) : List String := d.rows.filterMap DraftRow.opened

theorem openedNames_ofTable (name : String) (t : Table) (revision : UInt64) :
    (ofTable name t revision).openedNames = t.fields.map Field.name := by
  rw [openedNames, ofTable, List.filterMap_map]
  exact congrFun List.filterMap_eq_map t.fields

theorem opened_modify (rows : List DraftRow) (i : Nat) (name type : Option String) (isPrimary : Option Bool) :
    (rows.modify i (·.set name type isPrimary)).filterMap DraftRow.opened =
      rows.filterMap DraftRow.opened := by
  induction rows generalizing i with
  | nil => simp
  | cons row rows ih =>
    cases i with
    | zero => simp [List.filterMap_cons, DraftRow.set]
    | succ i => simp [List.filterMap_cons, ih]

/-- An edit opens no row. -/
theorem opened_apply (d : Draft) (e : Edit) : (d.apply e).openedNames.Sublist d.openedNames := by
  cases e with
  | setName name => exact .refl _
  | setRow i name type isPrimary => simp [openedNames, apply, opened_modify]
  | addField => simp [openedNames, apply]
  | removeField i => exact (List.eraseIdx_sublist d.rows i).filterMap _

theorem opened_sublist (d : Draft) (es : List Edit) : (d.edit es).openedNames.Sublist d.openedNames := by
  induction es generalizing d with
  | nil => exact .refl _
  | cons e es ih => exact (ih (d.apply e)).trans (opened_apply d e)

/-- Rows that were opened with the same name are the same row. -/
theorem row_unique {rows : List DraftRow} (h : (rows.filterMap DraftRow.opened).Nodup) {row row' : DraftRow}
    (hr : row ∈ rows) (hr' : row' ∈ rows) {f : String} (hf : row.opened = some f)
    (hf' : row'.opened = some f) : row = row' := by
  induction rows with
  | nil => cases hr
  | cons x rows ih =>
    have hmem : ∀ y ∈ rows, y.opened = some f → f ∈ rows.filterMap DraftRow.opened :=
      fun y hy hyf => List.mem_filterMap.2 ⟨y, hy, hyf⟩
    rcases List.mem_cons.1 hr with rfl | hm <;> rcases List.mem_cons.1 hr' with rfl | hm'
    · rfl
    · rw [List.filterMap_cons_some hf, List.nodup_cons] at h
      exact absurd (hmem row' hm' hf') h.1
    · rw [List.filterMap_cons_some hf', List.nodup_cons] at h
      exact absurd (hmem row hm hf) h.1
    · refine ih (List.Nodup.sublist ?_ h) hm hm'
      exact (List.sublist_cons_self x rows).filterMap _

/-! ## What a draft sends -/

theorem toUpdate_ok {d : Draft} {u : TableUpdate} (h : d.toUpdate = .ok u) :
    u = ⟨trim d.name, d.rows.map field, d.baseRevision, d.rows.filterMap rename?⟩ := by
  simp only [toUpdate] at h
  split at h
  · cases h
  · cases h; rfl

theorem rename?_eq_some {row : DraftRow} {r : FieldRename} :
    rename? row = some r ↔ ∃ f, row.opened = some f ∧ f ≠ trim row.name ∧ r = ⟨f, trim row.name⟩ := by
  simp only [rename?, Option.bind_eq_some_iff]
  constructor
  · rintro ⟨f, hf, h⟩
    split at h
    · cases h
    · next hne => cases h; exact ⟨f, hf, hne, rfl⟩
  · rintro ⟨f, hf, hne, rfl⟩
    exact ⟨f, hf, if_neg hne⟩

/-! ## Where references end up -/

section
variable {draft : Draft} {u : TableUpdate} (hu : draft.toUpdate = .ok u) {row : DraftRow}
  (hrow : row ∈ draft.rows) {f : String} (hf : row.opened = some f)
include hu hrow

theorem name_mem_newFields : trim row.name ∈ (Document.newFields u).map Field.name := by
  rw [toUpdate_ok hu]
  simp only [Document.newFields, List.map_map, List.mem_map]
  exact ⟨row, hrow, trim_trim row.name⟩

include hf

/-- The renames that a draft sends take a field to the name of its row. -/
theorem renamed_eq_name {fields : List Field} (htrim : ∀ x ∈ fields, trim x.name = x.name)
    (hdist : (fields.map Field.name).Nodup) (hopen : draft.openedNames.Sublist (fields.map Field.name)) :
    renamed (validRenames fields (Document.newFields u) u.renames) f = trim row.name := by
  have htrimmed : ∀ x ∈ draft.openedNames, trim x = x := by
    intro x hx
    obtain ⟨y, hy, rfl⟩ := List.mem_map.1 (hopen.subset hx)
    exact htrim y hy
  have hmem : f ∈ draft.openedNames := List.mem_filterMap.2 ⟨row, hrow, hf⟩
  have hrenames : u.renames = draft.rows.filterMap rename? := by rw [toUpdate_ok hu]
  -- Only the row that was opened for a field sends a rename of it.
  have honly : ∀ r ∈ u.renames, ∀ g, Counts fields (Document.newFields u) r f g → g = trim row.name := by
    rintro r hr g ⟨hsource, htarget, -⟩
    rw [hrenames] at hr
    obtain ⟨row', hrow', hren⟩ := List.mem_filterMap.1 hr
    obtain ⟨f', hf', -, rfl⟩ := rename?_eq_some.1 hren
    obtain rfl : f' = f := (htrimmed f' (List.mem_filterMap.2 ⟨row', hrow', hf'⟩)).symm.trans hsource
    rw [row_unique (hdist.sublist hopen) hrow hrow' hf hf', ← htarget]
    exact trim_trim row'.name
  have hto := renamesTo_renamed fields (Document.newFields u) u.renames f
  generalize renamed (validRenames fields (Document.newFields u) u.renames) f = g at hto ⊢
  cases hto with
  | last he hc _ => exact honly _ (by rw [he]; simp) _ hc
  | kept hno =>
    refine Classical.byContradiction fun hne => hno ⟨f, trim row.name⟩ ?_ (trim row.name) ?_
    · rw [hrenames]
      exact List.mem_filterMap.2 ⟨row, hrow, rename?_eq_some.2 ⟨f, hf, hne, rfl⟩⟩
    · exact ⟨htrimmed f hmem, trim_trim _, hne, hopen.subset hmem, name_mem_newFields hu hrow⟩

end

end Draft

open Document Draft in
/-- Open a draft of a table, edit it in any way and save it. Then every reference to a field
whose row is still there leads to the row's name in the table of the draft's name: both ends
of relationships, what the foreign keys of any table refer to, and the fields of the table's
own foreign keys. -/
theorem references_follow_rows {d d' : Document} {table : String} {t : Table}
    (ht : d.table? table = some t) (htrim : ∀ x ∈ t.fields, trim x.name = x.name)
    (hdist : (t.fields.map Field.name).Nodup) (es : List Edit) {u : TableUpdate}
    (hu : ((ofTable table t d.revision).edit es).toUpdate = .ok u)
    (h : d.applyUpdate table u = .accepted d') (row : DraftRow)
    (hrow : row ∈ ((ofTable table t d.revision).edit es).rows) {f : String} (hf : row.opened = some f) :
    let name := trim ((ofTable table t d.revision).edit es).name
    (∀ (i : Nat) (r : Relationship), d.relationships[i]? = some r →
      ∃ r', d'.relationships[i]? = some r' ∧
        ((r.fromTable, r.fromField) = (table, f) → (r'.fromTable, r'.fromField) = (name, trim row.name)) ∧
        ((r.toTable, r.toField) = (table, f) → (r'.toTable, r'.toField) = (name, trim row.name))) ∧
    ∀ (i : Nat) (e : String × Table), d.tables.entries[i]? = some e →
      ∃ e', d'.tables.entries[i]? = some e' ∧ (e.1 = table → e'.1 = name) ∧
        ∀ (j : Nat) (k : ForeignKey), e.2.foreignKeys[j]? = some k →
          ∃ k', e'.2.foreignKeys[j]? = some k' ∧
            ((k.referencesTable, k.referencesField) = (table, f) →
              (k'.referencesTable, k'.referencesField) = (name, trim row.name)) ∧
            ((e.1, k.field) = (table, f) → (e'.1, k'.field) = (name, trim row.name)) := by
  intro name
  have hopen := opened_sublist (ofTable table t d.revision) es
  rw [openedNames_ofTable] at hopen
  have hρ := renamed_eq_name hu hrow hf htrim hdist hopen
  have hname : trim u.name = name := by rw [toUpdate_ok hu]; exact trim_trim _
  obtain ⟨-, e, he, rfl⟩ := applyUpdate_accepted h
  obtain ⟨old, free, -, hold, -, rfl⟩ := edited_ok he
  obtain rfl : t = old := by rw [ht] at hold; cases hold; rfl
  constructor
  · intro i r hr
    refine ⟨_, by rw [relationships_editedTo, List.getElem?_map, hr]; rfl, ?_, ?_⟩
    · rintro ⟨⟩
      simp [Relationship.refield, Relationship.retarget, retarget, hρ, hname]
    · rintro ⟨⟩
      simp [Relationship.refield, Relationship.retarget, retarget, hρ, hname]
  · intro i e hi
    refine ⟨_, by rw [entries_editedTo ht, List.getElem?_map, hi]; rfl, ?_, ?_⟩
    · rintro rfl
      simp [retarget, hname]
    · intro j k hk
      refine ⟨_, by rw [List.getElem?_map, hk]; rfl, ?_, ?_⟩
      · rintro ⟨⟩
        simp [ForeignKey.refield, ForeignKey.retarget, retarget, hρ, hname]
      · rintro ⟨⟩
        simp [ForeignKey.refield, ForeignKey.retarget, retarget, hρ, hname]

/-- A row takes the name of the next one, which takes that of a removed one, and a new row
takes the name of the first; the table refers to itself and is renamed. -/
theorem references_follow_rows_cycle :
    let t : Table :=
      ⟨[⟨"a", "INT", true⟩, ⟨"b", "INT", false⟩, ⟨"c", "INT", false⟩], [⟨"b", "nodes", "a"⟩]⟩
    let d : Document := ⟨.ofList [("nodes", t)], [⟨"nodes", "b", "nodes", "a"⟩], 0⟩
    let draft := (Draft.ofTable "nodes" t d.revision).edit
      [.setRow 0 (some " b ") none none, .setRow 1 (some "c") none none, .removeField 2, .addField,
        .setRow 2 (some "a") (some "INT") none, .setName "points "]
    let u : TableUpdate := ⟨"points", [⟨"b", "INT", true⟩, ⟨"c", "INT", false⟩, ⟨"a", "INT", false⟩], 0,
      [⟨"a", "b"⟩, ⟨"b", "c"⟩]⟩
    let d' : Document := ⟨.ofList [("points", ⟨u.fields, [⟨"c", "points", "b"⟩]⟩)],
      [⟨"points", "c", "points", "b"⟩], 1⟩
    d.table? "nodes" = some t ∧ draft.toUpdate = .ok u ∧ d.applyUpdate "nodes" u = .accepted d' ∧
      ∃ r', d'.relationships[0]? = some r' ∧ (r'.toTable, r'.toField) = (trim "points ", trim " b ") := by
  intro t d draft u d'
  have ht : d.table? "nodes" = some t := by decide +kernel
  have hu : draft.toUpdate = .ok u := by
    have hflaw : tableFlaw? (trim draft.name) (draft.rows.map Draft.field) = none := by decide +kernel
    have hsent : (⟨trim draft.name, draft.rows.map Draft.field, draft.baseRevision,
        draft.rows.filterMap Draft.rename?⟩ : TableUpdate) = u := by decide +kernel
    simp only [Draft.toUpdate, hflaw, hsent]
  have h : d.applyUpdate "nodes" u = .accepted d' := by decide +kernel
  obtain ⟨hrel, -⟩ := references_follow_rows ht (by decide +kernel) (by decide +kernel) _ hu h
    ⟨" b ", "INT", true, some "a"⟩ (by decide +kernel) rfl
  obtain ⟨r', hr', -, hto⟩ := hrel 0 _ rfl
  exact ⟨ht, hu, h, r', hr', hto rfl⟩

end SchemaAtlas
