import SchemaAtlas.Proofs.Document.Capture
import SchemaAtlas.Proofs.Document.Refusals
import SchemaAtlas.Proofs.Draft.Rows
/-!
# Drafts and documents agree on what is valid

A draft checks what it is about to send, and the document checks what it gets. The draft trims
first and checks then; the document checks what came and trims when it stores. Both blame the same
field, because a check looks at no more than the names as they would be stored
(`tableFlaw?_congr`). So the document accepts what a draft sends, unless the name is taken, and
would refuse what a draft holds back, for the same reason (`draft_agrees`).
-/

namespace SchemaAtlas

open Text (trim trim_trim)

/-! ## What a check looks at -/

theorem fieldFlaw?_congr {fields fields' : List Field} (h : storedNames fields = storedNames fields') (n : Nat)
    (seen : List String) : fieldFlaw? n seen fields = fieldFlaw? n seen fields' := by
  induction fields generalizing fields' n seen with
  | nil =>
    have hnil : fields' = [] := by simpa [storedNames] using h
    rw [hnil]
  | cons f fields ih =>
    cases fields' with
    | nil => simp [storedNames] at h
    | cons f' fields' =>
      simp only [storedNames, List.map_cons, List.cons.injEq] at h
      simp only [fieldFlaw?, h.1, ih h.2]

/-- The fault of a definition is a matter of the names that it would store. -/
theorem tableFlaw?_congr {name name' : String} {fields fields' : List Field} (hname : trim name = trim name')
    (h : storedNames fields = storedNames fields') : tableFlaw? name fields = tableFlaw? name' fields' := by
  unfold tableFlaw?
  rw [hname, fieldFlaw?_congr h]

namespace Draft

variable {draft : Draft}

/-- What is typed into the draft, unprocessed, with any renames. -/
def asTyped (draft : Draft) (renames : List FieldRename) : TableUpdate :=
  ⟨draft.name, draft.rows.map fun r => ⟨r.name, r.type, r.isPrimary⟩, draft.baseRevision, renames⟩

theorem tableFlaw?_asTyped (draft : Draft) (renames : List FieldRename) :
    tableFlaw? (trim draft.name) (draft.rows.map field) =
      tableFlaw? (draft.asTyped renames).name (draft.asTyped renames).fields := by
  apply tableFlaw?_congr (trim_trim draft.name)
  simp only [storedNames, asTyped, List.map_map]
  exact List.map_congr_left fun r _ => trim_trim r.name

/-! ## What a draft sends -/

/-- A draft is held back for a fault of what is typed. -/
theorem toUpdate_error_iff {e : UpdateError} (renames : List FieldRename) :
    draft.toUpdate = .error e ↔ ∃ flaw, e = .invalid flaw ∧
      tableFlaw? (draft.asTyped renames).name (draft.asTyped renames).fields = some flaw := by
  rw [← tableFlaw?_asTyped]
  unfold toUpdate
  dsimp only
  cases tableFlaw? (trim draft.name) (draft.rows.map field) with
  | none => simp
  | some flaw => simp [eq_comm]

variable {u : TableUpdate} (hu : draft.toUpdate = .ok u)
include hu

theorem acceptable_of_toUpdate : Acceptable u.name u.fields := by
  apply tableFlaw?_eq_none_iff.1
  unfold toUpdate at hu
  dsimp only at hu
  split at hu
  · cases hu
  · next hflaw =>
    cases hu
    exact hflaw

theorem trim_name_of_toUpdate : trim u.name = u.name := by
  rw [toUpdate_ok hu]
  exact trim_trim draft.name

omit hu in
/-- A row without a type gets one that is trimmed, too. -/
theorem trimmed_field (r : DraftRow) : (field r).trimmed = field r := by
  have hhint : trim typeHint = typeHint := by decide +kernel
  unfold field Field.trimmed
  simp only [trim_trim]
  split
  · rw [hhint]
  · rw [trim_trim]

theorem newFields_of_toUpdate : Document.newFields u = u.fields := by
  rw [toUpdate_ok hu, Document.newFields, List.map_map]
  exact List.map_congr_left fun r _ => trimmed_field r

end Draft

/-! ## Both checks -/

namespace Document

/-- For an update with an acceptable definition, of a table that is there, only the name is in
question. -/
theorem applyUpdate_of_acceptable {d : Document} {table : String} {u : TableUpdate}
    (hlast : d.revision ≠ lastRevision) (hrev : u.baseRevision = d.revision) (hknown : table ∈ d.tableNames)
    (hok : Acceptable u.name u.fields) :
    (d.applyUpdate table u = .refused (.nameTaken (trim u.name)) ↔
      trim u.name ≠ table ∧ trim u.name ∈ d.tableNames) ∧
    ((∃ d', d.applyUpdate table u = .accepted d') ↔ ¬ (trim u.name ≠ table ∧ trim u.name ∈ d.tableNames)) := by
  rw [applyUpdate_refused_iff, applyUpdate_accepted_iff hlast]
  constructor
  · constructor
    · intro h
      cases h with
      | taken _ _ _ hne htaken => exact ⟨hne, htaken⟩
    · rintro ⟨hne, htaken⟩
      exact .taken hrev hknown hok hne htaken
  · constructor
    · rintro h ⟨hne, htaken⟩
      rcases h.free with hn | hn
      · exact hne hn
      · exact hn htaken
    · intro h
      refine ⟨hrev, hknown, hok, ?_⟩
      by_cases hn : trim u.name = table
      · exact .inl hn
      · exact .inr fun hc => h ⟨hn, hc⟩

/-- The table is stored with the new fields. -/
theorem table?_of_accepted {d d' : Document} {table : String} {u : TableUpdate}
    (h : d.applyUpdate table u = .accepted d') :
    ∃ t, d'.table? (trim u.name) = some t ∧ t.fields = newFields u := by
  obtain ⟨-, e, he, rfl⟩ := applyUpdate_accepted h
  obtain ⟨old, free, -, hold, -, rfl⟩ := edited_ok he
  exact table?_editedTo free hold

end Document

open Document in
/-- Take any draft and a document at the draft's revision, before the last one, that has the
draft's table. What the draft sends is refused exactly if its name is that of another table, and
else accepted; the table is then found under the name that was sent, with the fields that were
sent. The draft holds back exactly what the document would refuse as invalid if it were sent as
it is typed, and reports the same error. -/
theorem draft_agrees {d : Document} {draft : Draft} (hlast : d.revision ≠ lastRevision)
    (hrev : d.revision = draft.baseRevision) (hknown : draft.tableName ∈ d.tableNames) :
    (∀ u, draft.toUpdate = .ok u →
      (d.applyUpdate draft.tableName u = .refused (.nameTaken u.name) ↔
        u.name ≠ draft.tableName ∧ u.name ∈ d.tableNames) ∧
      ((∃ d', d.applyUpdate draft.tableName u = .accepted d') ↔
        ¬ (u.name ≠ draft.tableName ∧ u.name ∈ d.tableNames)) ∧
      ∀ d', d.applyUpdate draft.tableName u = .accepted d' →
        ∃ t, d'.table? u.name = some t ∧ t.fields = u.fields) ∧
    ∀ e renames, draft.toUpdate = .error e ↔
      (∃ flaw, e = .invalid flaw) ∧ d.applyUpdate draft.tableName (draft.asTyped renames) = .refused e := by
  constructor
  · intro u hu
    have hname := Draft.trim_name_of_toUpdate hu
    have hbase : u.baseRevision = d.revision := by rw [Draft.toUpdate_ok hu, hrev]
    have houtcome := applyUpdate_of_acceptable hlast hbase hknown (Draft.acceptable_of_toUpdate hu)
    rw [hname] at houtcome
    refine ⟨houtcome.1, houtcome.2, fun d' h => ?_⟩
    obtain ⟨t, ht, hfields⟩ := table?_of_accepted h
    rw [hname] at ht
    exact ⟨t, ht, hfields.trans (Draft.newFields_of_toUpdate hu)⟩
  · intro e renames
    rw [Draft.toUpdate_error_iff renames]
    constructor
    · rintro ⟨flaw, rfl, hflaw⟩
      refine ⟨⟨flaw, rfl⟩, applyUpdate_refused_iff.2 ?_⟩
      exact .invalid hrev.symm hknown (tableFlaw?_eq_some_iff.1 hflaw)
    · rintro ⟨⟨flaw, rfl⟩, h⟩
      refine ⟨flaw, rfl, ?_⟩
      cases applyUpdate_refused_iff.1 h with
      | invalid _ _ hflaw => exact tableFlaw?_eq_some_iff.2 hflaw

open Document in
/-- Blanks around all names, and a row without a type. With one more row, the draft has a name
twice, but for blanks. -/
theorem draft_agrees_blanks :
    let d : Document := ⟨.ofList [("users", ⟨[⟨"id", "INT", true⟩], []⟩), ("orders", ⟨[], []⟩)], [], 3⟩
    let rows : List DraftRow := [⟨" id", "", true, some "id"⟩, ⟨"mail ", "TEXT", false, none⟩]
    let draft : Draft := ⟨"users", " people ", rows, 3, none, false⟩
    let twice : Draft := ⟨"users", " people ", rows ++ [⟨"\tid", "INT", false, none⟩], 3, none, false⟩
    let u : TableUpdate := ⟨"people", [⟨"id", "VARCHAR(255)", true⟩, ⟨"mail", "TEXT", false⟩], 3, []⟩
    let e : UpdateError := .invalid (.duplicateField "id")
    d.revision ≠ lastRevision ∧ "users" ∈ d.tableNames ∧ draft.toUpdate = .ok u ∧
      (∃ d' t, d.applyUpdate "users" u = .accepted d' ∧ d'.table? "people" = some t ∧ t.fields = u.fields) ∧
      twice.toUpdate = .error e ∧ d.applyUpdate "users" (twice.asTyped []) = .refused e := by
  intro d rows draft twice u e
  have hlast : d.revision ≠ lastRevision := by decide
  have hknown : "users" ∈ d.tableNames := by decide +kernel
  have hu : draft.toUpdate = .ok u := by cbv
  have he : twice.toUpdate = .error e := by cbv
  obtain ⟨hsent, -⟩ := @draft_agrees d draft hlast rfl hknown
  obtain ⟨-, haccepted, hstored⟩ := hsent u hu
  obtain ⟨d', hd'⟩ := haccepted.2 (by decide +kernel)
  obtain ⟨t, ht, hfields⟩ := hstored d' hd'
  obtain ⟨-, hheld⟩ := @draft_agrees d twice hlast rfl hknown
  exact ⟨hlast, hknown, hu, ⟨d', t, hd', ht, hfields⟩, he, ((hheld e []).1 he).2⟩

end SchemaAtlas
