import SchemaAtlas.Proofs.Draft.Agreement
import SchemaAtlas.Proofs.Scene.Seeded
/-!
# The table that a save reports

The answer to a save is a schema without the name that was sent. The name is read off the draft when
the answer arrives, and until then the draft can be edited. So a save reports the table under the name
that was typed last (`name_edit`), and that table is selected if the schema has it; if not, what was
selected before is selected again (`selectedTable_build`). It is the table that was saved exactly if no
other name was typed in the meantime (`finishSave_reports_iff`).
-/

namespace SchemaAtlas

open Text (trim trim_trim)

/-! ## Names that are typed -/

namespace Draft

/-- The table name that an edit types. -/
def Edit.typed? : Edit → Option String
  | .setName name => some name
  | .setRow .. | .addField | .removeField _ => none

/-- The table name that was typed last. -/
def typedName? (es : List Edit) : Option String := (es.filterMap Edit.typed?).getLast?

theorem name_edit (d : Draft) (es : List Edit) : (d.edit es).name = (typedName? es).getD d.name := by
  induction es generalizing d with
  | nil => rfl
  | cons e es ih =>
    refine (ih (d.apply e)).trans ?_
    cases e with
    | setName name => simp [typedName?, Edit.typed?, apply, List.getLast?_cons]
    | _ => rfl

theorem saving_edit (d : Draft) (es : List Edit) : (d.edit es).saving = d.saving := by
  induction es generalizing d with
  | nil => rfl
  | cons e es ih => exact (ih (d.apply e)).trans (saving_apply d e)

end Draft

namespace Scene

/-! ## The selected table -/

theorem Coherent.selectedTable_eq {s : Scene} (h : Coherent s) :
    s.selectedTable = s.selection.bind fun i => s.document.tableNames[i]? := by
  unfold selectedTable Arena.get?
  simp only [← h.tables, List.getElem?_map]

theorem selectedTable_selectTable {s : Scene} (h : Coherent s) (name : String) :
    (s.selectTable name).selectedTable = if name ∈ s.document.tableNames then some name else s.selectedTable := by
  rw [(coherent_selectTable h name).selectedTable_eq, selection_selectTable, document_selectTable]
  cases hid : s.arena.idOf? name with
  | none => rw [Option.none_or, if_neg (h.idOf?_eq_none_iff.1 hid), h.selectedTable_eq]
  | some i =>
    have hi := h.idOf?_eq_some_iff.1 hid
    rw [Option.some_or, if_pos (List.mem_of_getElem? hi)]
    exact hi

/-- A new schema leaves the selected table selected, if it has it. -/
theorem selectedTable_build (s : Scene) (d : Document) :
    (s.build d).selectedTable = s.selectedTable.filter (· ∈ d.tableNames) := by
  rw [build, buildFrom_eq]
  cases s.selectedTable with
  | none => rfl
  | some name =>
    refine (selectedTable_selectTable (coherent_rebuilt .ofSeed s d) name).trans ?_
    simp only [Option.filter_some, decide_eq_true_eq]
    rfl

/-- What a save leaves that was answered while its draft was open. -/
theorem finishSave_saving (s : Scene) {draft : Draft} (hsaving : draft.saving = true) (d : Document) :
    s.finishSave (some draft) (.ok d) = ((s.build d).selectTable (trim draft.name), none, some (trim draft.name)) := by
  have hname : savingName? (some draft) = some (trim draft.name) := by
    rw [savingName?, Option.filter_some, if_pos hsaving, Option.map_some]
  simp only [finishSave, hname]

/-! ## Saves -/

/-- A draft is sent, edited in any way while its save is under way, and the save succeeds. The schema
that came back is shown and the draft closed. The name that is reported is the one that was typed last,
also after the draft was sent. If the schema has a table of that name, it is selected; else what was
selected before is so again, if it is still there. Nothing but the selected table glows. The table that
was sent is always in the schema, but it is the one that is reported, selected and glowing exactly if no
name was typed after the sending, or the last one is the same but for blanks around it. -/
theorem finishSave_reports_iff (s : Scene) {draft : Draft} {u : TableUpdate} (hu : draft.toUpdate = .ok u)
    (later : List Draft.Edit) {d d' : Document} (h : d.applyUpdate draft.tableName u = .accepted d') :
    let sent := { draft with status := none, saving := true }
    let name := trim ((Draft.typedName? later).getD draft.name)
    let answered := s.finishSave (some (sent.edit later)) (.ok d')
    let after := answered.1
    (after.document = d' ∧ answered.2 = (none, some name)) ∧
    after.selectedTable =
      (if name ∈ d'.tableNames then some name else s.selectedTable.filter (· ∈ d'.tableNames)) ∧
    after.highlightedTables = after.selectedTable.toList ∧
    trim u.name ∈ d'.tableNames ∧
    ((answered.2.2 = some (trim u.name) ∧ after.selectedTable = some (trim u.name) ∧
        after.highlightedTables = [trim u.name]) ↔
      ∀ typed, Draft.typedName? later = some typed → trim typed = trim u.name) := by
  intro sent name answered after
  have hsaving : (sent.edit later).saving = true := Draft.saving_edit sent later
  have hname : trim (sent.edit later).name = name := congrArg trim (Draft.name_edit sent later)
  have hanswered : answered = ((s.build d').selectTable name, none, some name) := by
    rw [← hname]
    exact finishSave_saving s hsaving d'
  have hafter : after = (s.build d').selectTable name := congrArg Prod.fst hanswered
  have hdocument : after.document = d' := by rw [hafter, document_selectTable, document_build]
  have hselected : after.selectedTable =
      if name ∈ d'.tableNames then some name else s.selectedTable.filter (· ∈ d'.tableNames) := by
    rw [hafter, selectedTable_selectTable (coherent_build s d'), document_build, selectedTable_build]
  have hlit : after.highlightedTables = after.selectedTable.toList := by
    rw [hafter]
    exact (coherent_selectTable (coherent_build s d') name).highlightedTables_eq
  obtain ⟨t, ht, -⟩ := Document.table?_of_accepted h
  have hmem := Document.mem_tableNames_of_table? ht
  refine ⟨⟨hdocument, congrArg Prod.snd hanswered⟩, hselected, hlit, hmem, ?_⟩
  -- The name that was sent is the one in the draft at that time.
  have hsent : trim u.name = trim draft.name := by rw [Draft.toUpdate_ok hu, trim_trim]
  have hreported : name = trim u.name ↔ ∀ typed, Draft.typedName? later = some typed → trim typed = trim u.name := by
    simp only [name]
    cases Draft.typedName? later with
    | none => simp [hsent]
    | some typed => simp
  rw [← hreported, hlit, hanswered]
  constructor
  · rintro ⟨hsome, -⟩
    exact Option.some.inj hsome
  · intro heq
    rw [heq, if_pos hmem] at hselected
    rw [heq, hselected]
    exact ⟨rfl, rfl, rfl⟩

/-- While `users` is saved as `people`, a row is added and the name is typed once more, with a blank. The
table that was selected before is so no longer. -/
theorem finishSave_reports_iff_retyped :
    let users : Table := ⟨[⟨"id", "INT", true⟩], []⟩
    let shop : Document := ⟨.ofList [("users", users), ("orders", {})], [], 1⟩
    let s := (new { particleCount := 0 } (.ofSeed 7)).run [.build shop, .selectTable "orders"]
    let draft := (Draft.ofTable "users" users 1).edit [.setName "people"]
    let u : TableUpdate := ⟨"people", users.fields, 1, []⟩
    let shop' : Document := ⟨.ofList [("people", users), ("orders", {})], [], 2⟩
    let later : List Draft.Edit := [.addField, .setName "persons", .setName "people "]
    let answered := s.finishSave (some ({ draft with status := none, saving := true }.edit later)) (.ok shop')
    draft.toUpdate = .ok u ∧ shop.applyUpdate "users" u = .accepted shop' ∧ s.selectedTable = some "orders" ∧
      answered.2.2 = some "people" ∧ answered.1.selectedTable = some "people" ∧
      answered.1.highlightedTables = ["people"] := by
  intro users shop s draft u shop' later answered
  have hu : draft.toUpdate = .ok u := by
    have hflaw : tableFlaw? (trim draft.name) (draft.rows.map Draft.field) = none := by decide +kernel
    have hsent : (⟨trim draft.name, draft.rows.map Draft.field, draft.baseRevision,
        draft.rows.filterMap Draft.rename?⟩ : TableUpdate) = u := by decide +kernel
    simp only [Draft.toUpdate, hflaw, hsent]
  have h : shop.applyUpdate "users" u = .accepted shop' := by decide +kernel
  have hname : trim u.name = "people" := by decide +kernel
  have hlast : Draft.typedName? later = some "people " := by decide
  have hblank : trim "people " = "people" := by decide +kernel
  have hselected : s.selectedTable = some "orders" := by decide +kernel
  -- Nothing else about the scene matters.
  clear_value s
  obtain ⟨-, -, -, -, hiff⟩ := finishSave_reports_iff s hu later h
  rw [hname, hlast] at hiff
  exact ⟨hu, h, hselected, hiff.2 fun typed htyped => Option.some.inj htyped ▸ hblank⟩

/-- A name that is typed while the save is under way is reported in place of the one that was saved, though
the schema has no such table and nothing is selected. If another table has that name, it is selected. -/
theorem typed_name_reported :
    let users : Table := ⟨[⟨"id", "INT", true⟩], []⟩
    let shop : Document := ⟨.ofList [("users", users), ("orders", {})], [], 1⟩
    let s := (new { particleCount := 0 } (.ofSeed 7)).run [.build shop]
    let draft := (Draft.ofTable "users" users 1).edit [.setName "people"]
    let u : TableUpdate := ⟨"people", users.fields, 1, []⟩
    let shop' : Document := ⟨.ofList [("people", users), ("orders", {})], [], 2⟩
    let answered := fun typed =>
      s.finishSave (some ({ draft with status := none, saving := true }.edit [.setName typed])) (.ok shop')
    draft.toUpdate.toOption = some u ∧ shop.applyUpdate "users" u = .accepted shop' ∧
      ((answered "persons").2.2 = some "persons" ∧ "persons" ∉ shop'.tableNames ∧
        (answered "persons").1.selectedTable = none) ∧
      (answered "orders").2.2 = some "orders" ∧ (answered "orders").1.selectedTable = some "orders" := by
  decide +kernel

end Scene
end SchemaAtlas
