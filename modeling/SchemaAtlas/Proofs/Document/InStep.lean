import SchemaAtlas.Proofs.Document.Update
/-!
# Relationships and foreign keys stay in step

A foreign key is also a relationship, and an update rewrites the two lists in different ways:
a relationship by the tables that it names at both ends, a foreign key by the table that it
stands in and the table that it names. The rewritten foreign keys are nevertheless the
rewritten relationships (`foreignRelationships_editedTo`), in any document. So a document
whose relationships are its foreign keys stays one, whatever updates it gets
(`inStep_history`).
-/

namespace SchemaAtlas

open Text (trim)

/-- A foreign key and its relationship are rewritten alike, provided that the table which the
key stands in already has its new name. -/
theorem ForeignKey.relationship_followed (table name owner : String) (rs : List FieldRename) (k : ForeignKey) :
    ((k.retarget table name).refield name rs (SchemaAtlas.retarget table name owner)).relationship
        (SchemaAtlas.retarget table name owner) =
      ((k.relationship owner).retarget table name).refield name rs :=
  rfl

namespace Document

/-- The foreign keys after an update are those before it, each rewritten as its relationship
is. -/
theorem foreignRelationships_editedTo {d : Document} {table : String} {u : TableUpdate} {old : Table}
    {free : trim u.name = table ∨ trim u.name ∉ d.tables.names} (hold : d.table? table = some old) :
    (d.editedTo table u old free).foreignRelationships =
      d.foreignRelationships.map fun r => (r.retarget table (trim u.name)).refield (trim u.name)
        (validRenames old.fields (newFields u) u.renames) := by
  rw [foreignRelationships, foreignRelationships, entries_editedTo hold]
  simp only [List.flatMap_map, List.map_flatMap, List.map_map, Function.comp_def,
    ForeignKey.relationship_followed]

/-! ## One update -/

variable {d : Document}

theorem inStep_edited {d' : Document} {table : String} {u : TableUpdate} (h : d.InStep)
    (he : d.edited table u = .ok d') :
    d'.InStep ∧ d'.relationships.length = d.relationships.length := by
  obtain ⟨old, free, -, hold, -, rfl⟩ := edited_ok he
  constructor
  · rw [InStep, relationships_editedTo, foreignRelationships_editedTo hold, ← h]
  · rw [relationships_editedTo, List.length_map]

/-- An update keeps a document in step, whatever becomes of the update. -/
theorem inStep_applyUpdate (h : d.InStep) (table : String) (u : TableUpdate) :
    let after := (d.applyUpdate table u).documentFrom d
    after.InStep ∧ after.relationships.length = d.relationships.length := by
  cases hu : d.applyUpdate table u with
  | refused e => exact ⟨h, rfl⟩
  | accepted d' =>
    -- Being in step is not about the revision.
    obtain ⟨-, e, he, rfl⟩ := applyUpdate_accepted hu
    have hkept := inStep_edited h he
    exact hkept
  | exhausted d' => exact inStep_edited h (edited_of_exhausted hu)

/-! ## Runs of updates -/

/-- The documents that updates of tables lead through, one after each update, whatever becomes
of it. -/
def history (d : Document) : List (String × TableUpdate) → List Document
  | [] => []
  | u :: us =>
    let next := (d.applyUpdate u.1 u.2).documentFrom d
    next :: next.history us

/-- A document whose relationships are its foreign keys, in order, is one after each of any
updates: accepted and refused ones, of tables that refer to themselves and to missing tables,
with any renames. None of them adds or drops a relationship. -/
theorem inStep_history (h : d.InStep) (us : List (String × TableUpdate)) :
    ∀ x ∈ d.history us, x.InStep ∧ x.relationships.length = d.relationships.length := by
  induction us generalizing d with
  | nil => simp [history]
  | cons u us ih =>
    obtain ⟨hnext, hlength⟩ := inStep_applyUpdate h u.1 u.2
    intro x hx
    rcases List.mem_cons.1 hx with rfl | hx
    · exact ⟨hnext, hlength⟩
    · obtain ⟨hstep, hlater⟩ := ih hnext x hx
      exact ⟨hstep, hlater.trans hlength⟩

/-- A table that refers to itself and to a missing table is renamed, with its fields in a cycle;
an update made too late is refused; the table takes the name of the missing one. -/
theorem inStep_history_cycle :
    let d : Document :=
      ⟨.ofList [("users", ⟨[⟨"id", "INT", true⟩, ⟨"boss", "INT", false⟩, ⟨"team", "INT", false⟩],
            [⟨"boss", "users", "id"⟩, ⟨"team", "teams", "boss"⟩]⟩),
          ("orders", ⟨[⟨"user", "INT", false⟩], [⟨"user", "users", "id"⟩]⟩)],
        [⟨"users", "boss", "users", "id"⟩, ⟨"users", "team", "teams", "boss"⟩,
          ⟨"orders", "user", "users", "id"⟩], 0⟩
    let people : List Field := [⟨"boss", "INT", true⟩, ⟨"team", "INT", false⟩, ⟨"id", "INT", false⟩]
    let cycle : TableUpdate := ⟨"people", people, 0, [⟨"id", "boss"⟩, ⟨"boss", "team"⟩, ⟨"team", "id"⟩]⟩
    let capture : TableUpdate := ⟨"teams", [⟨"chief", "INT", true⟩], 1, [⟨"boss", "chief"⟩]⟩
    let last : Document :=
      ⟨.ofList [("teams", ⟨[⟨"chief", "INT", true⟩], [⟨"team", "teams", "chief"⟩, ⟨"id", "teams", "chief"⟩]⟩),
          ("orders", ⟨[⟨"user", "INT", false⟩], [⟨"user", "teams", "chief"⟩]⟩)],
        [⟨"teams", "team", "teams", "chief"⟩, ⟨"teams", "id", "teams", "chief"⟩,
          ⟨"orders", "user", "teams", "chief"⟩], 2⟩
    let us := [("users", cycle), ("people", cycle), ("people", capture)]
    d.InStep ∧ last ∈ d.history us ∧ last.InStep := by
  intro d people cycle capture last us
  have h : d.InStep := by decide +kernel
  have hlast : last ∈ d.history us := by decide +kernel
  exact ⟨h, hlast, (inStep_history h us last hlast).1⟩

end Document
end SchemaAtlas
