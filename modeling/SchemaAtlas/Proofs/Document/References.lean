import Mathlib.Data.List.Induction
import SchemaAtlas.Proofs.Document.Update
/-!
# References follow an update at once

An update renames a table and then, under its new name, fields of it. In a document whose
references all lead to tables of the document, the two passes together are one simultaneous
substitution (`moved`): a reference to a field of the table becomes one to the renamed field
of the renamed table, and any other stays (`applyUpdate_effect`). Which name a field takes is
said by `RenamesTo`, without the order in which renames are looked up.
-/

namespace SchemaAtlas

open Text (trim)

/-! ## The new name of a field -/

/-- The rename counts, as one from `f` to `g`: the names differ once they are trimmed, and
lead from a field of the old table to one of the new. -/
def Counts (old new : List Field) (r : FieldRename) (f g : String) : Prop :=
  trim r.source = f ∧ trim r.target = g ∧ f ≠ g ∧ f ∈ old.map Field.name ∧ g ∈ new.map Field.name

/-- What a field is called after renames. -/
inductive RenamesTo (old new : List Field) (renames : List FieldRename) (f : String) : String → Prop
  /-- The last rename that counts decides. -/
  | last {before after : List FieldRename} {r : FieldRename} {g : String} :
      renames = before ++ r :: after → Counts old new r f g →
      (∀ r' ∈ after, ∀ g', ¬ Counts old new r' f g') → RenamesTo old new renames f g
  /-- Without one the name stays. -/
  | kept : (∀ r ∈ renames, ∀ g, ¬ Counts old new r f g) → RenamesTo old new renames f f

theorem renamed_append (rs : List FieldRename) (r : FieldRename) (f : String) :
    renamed (rs ++ [r]) f = if r.source = f then r.target else renamed rs f := by
  by_cases h : r.source = f <;> simp [renamed, h]

theorem validRenames_append (old new : List Field) (rs : List FieldRename) (r : FieldRename) :
    validRenames old new (rs ++ [r]) = validRenames old new rs ++ validRenames old new [r] := by
  simp [validRenames]

theorem validRenames_singleton {old new : List Field} {r : FieldRename}
    (h : Counts old new r (trim r.source) (trim r.target)) :
    validRenames old new [r] = [⟨trim r.source, trim r.target⟩] := by
  obtain ⟨-, -, hne, hold, hnew⟩ := h
  simp only [List.mem_map] at hold hnew
  simpa [validRenames, hne] using ⟨hold, hnew⟩

theorem validRenames_singleton_not {old new : List Field} {r : FieldRename}
    (h : ¬ Counts old new r (trim r.source) (trim r.target)) : validRenames old new [r] = [] := by
  simp only [validRenames, List.map_cons, List.map_nil, List.filter_cons, List.filter_nil]
  rw [if_neg]
  simp only [Bool.and_eq_true, bne_iff_ne, List.any_eq_true, beq_iff_eq]
  rintro ⟨⟨hne, hold⟩, hnew⟩
  exact h ⟨rfl, rfl, hne, List.mem_map.2 hold, List.mem_map.2 hnew⟩

theorem counts_iff {old new : List Field} {r : FieldRename} {f g : String} :
    Counts old new r f g ↔
      trim r.source = f ∧ trim r.target = g ∧ Counts old new r (trim r.source) (trim r.target) := by
  constructor
  · rintro ⟨rfl, rfl, h⟩
    exact ⟨rfl, rfl, rfl, rfl, h⟩
  · rintro ⟨rfl, rfl, h⟩
    exact h

/-- A rename that does not count for the field decides nothing. -/
theorem RenamesTo.append {old new : List Field} {rs : List FieldRename} {r : FieldRename} {f g : String}
    (h : RenamesTo old new rs f g) (hr : ∀ g', ¬ Counts old new r f g') :
    RenamesTo old new (rs ++ [r]) f g := by
  cases h with
  | @last before after r' _ he hc hno =>
    have he' : rs ++ [r] = before ++ r' :: (after ++ [r]) := by simp [he]
    refine .last he' hc fun r'' hm => ?_
    rcases List.mem_append.1 hm with hm | hm
    · exact hno r'' hm
    · rw [List.mem_singleton.1 hm]; exact hr
  | kept hno =>
    refine .kept fun r' hm => ?_
    rcases List.mem_append.1 hm with hm | hm
    · exact hno r' hm
    · rw [List.mem_singleton.1 hm]; exact hr

/-- Looking up the last rename gives the name that the renames stand for. -/
theorem renamesTo_renamed (old new : List Field) (renames : List FieldRename) (f : String) :
    RenamesTo old new renames f (renamed (validRenames old new renames) f) := by
  induction renames using List.reverseRecOn with
  | nil => exact .kept (by simp)
  | append_singleton rs r ih =>
    rw [validRenames_append]
    by_cases hr : Counts old new r (trim r.source) (trim r.target)
    · rw [validRenames_singleton hr, renamed_append]
      split
      · next hf => exact .last rfl (counts_iff.2 ⟨hf, rfl, hr⟩) (by simp)
      · next hf =>
        have hno : ∀ g, ¬ Counts old new r f g := fun g hc => hf hc.1
        exact ih.append hno
    · rw [validRenames_singleton_not hr, List.append_nil]
      exact ih.append fun g hc => hr (counts_iff.1 hc).2.2

/-! ## The two passes -/

/-- Where a reference leads, given as table and field, once the table `table` is called
`name` and its fields are renamed by `ρ`. -/
def moved (table name : String) (ρ : String → String) (ref : String × String) : String × String :=
  if ref.1 = table then (name, ρ ref.2) else ref

/-- Both ends move. -/
def Relationship.moved (table name : String) (ρ : String → String) (r : Relationship) : Relationship :=
  let source := SchemaAtlas.moved table name ρ (r.fromTable, r.fromField)
  let target := SchemaAtlas.moved table name ρ (r.toTable, r.toField)
  ⟨source.1, source.2, target.1, target.2⟩

/-- What the key refers to moves; the field that refers keeps its name. -/
def ForeignKey.moved (table name : String) (ρ : String → String) (k : ForeignKey) : ForeignKey :=
  let target := SchemaAtlas.moved table name ρ (k.referencesTable, k.referencesField)
  ⟨k.field, target.1, target.2⟩

/-- A reference is found under the new name exactly if it was to the table: no other table
has the new name. -/
theorem retarget_eq_iff {table name t : String} {names : List String}
    (free : name = table ∨ name ∉ names) (ht : t ∈ names) : retarget table name t = name ↔ t = table := by
  unfold retarget
  split
  · next h => simp [h]
  · next h =>
    refine ⟨fun he => ?_, fun he => absurd he h⟩
    rcases free with hn | hn
    · exact he.trans hn
    · exact absurd (he ▸ ht) hn

/-- No other table has the new name. -/
theorem ne_of_free {table name t : String} {names : List String} (free : name = table ∨ name ∉ names)
    (ht : t ∈ names) (hne : t ≠ table) : t ≠ name := by
  rintro rfl
  rcases free with hn | hn
  · exact hne hn
  · exact hn ht

theorem refield_retarget {table name t : String} (f : String) (rs : List FieldRename)
    (h : retarget table name t = name ↔ t = table) :
    (retarget table name t, if retarget table name t = name then renamed rs f else f) =
      moved table name (renamed rs) (t, f) := by
  unfold moved
  by_cases ht : t = table
  · simp [ht, retarget]
  · rw [if_neg (fun hc => ht (h.1 hc))]
    simp [ht, retarget]

theorem Relationship.refield_retarget {table name : String} {r : Relationship} (rs : List FieldRename)
    (hfrom : SchemaAtlas.retarget table name r.fromTable = name ↔ r.fromTable = table)
    (hto : SchemaAtlas.retarget table name r.toTable = name ↔ r.toTable = table) :
    (r.retarget table name).refield name rs = r.moved table name (renamed rs) := by
  simp only [Relationship.moved, ← SchemaAtlas.refield_retarget _ rs hfrom,
    ← SchemaAtlas.refield_retarget _ rs hto]
  rfl

theorem ForeignKey.refield_retarget {table name : String} {k : ForeignKey} (rs : List FieldRename)
    (owner : String)
    (h : SchemaAtlas.retarget table name k.referencesTable = name ↔ k.referencesTable = table) :
    (k.retarget table name).refield name rs owner =
      { k.moved table name (renamed rs) with field := if owner = name then renamed rs k.field else k.field } := by
  simp only [ForeignKey.moved, ← SchemaAtlas.refield_retarget _ rs h]
  rfl

/-! ## The effect of an update -/

namespace Document

/-- Every reference leads to a table of the document. -/
structure Closed (d : Document) : Prop where
  relationships : ∀ r ∈ d.relationships, r.fromTable ∈ d.tableNames ∧ r.toTable ∈ d.tableNames
  foreignKeys : ∀ e ∈ d.tables.entries, ∀ k ∈ e.2.foreignKeys, k.referencesTable ∈ d.tableNames

variable {d : Document} {table : String} {u : TableUpdate} {old : Table} (hd : d.Closed)
  (free : trim u.name = table ∨ trim u.name ∉ d.tables.names)
include hd

theorem relationships_of_closed : (d.editedTo table u old free).relationships =
    d.relationships.map
      (·.moved table (trim u.name) (renamed (validRenames old.fields (newFields u) u.renames))) := by
  rw [relationships_editedTo]
  refine List.map_congr_left fun r hr => ?_
  obtain ⟨hfrom, hto⟩ := hd.relationships r hr
  exact Relationship.refield_retarget _ (retarget_eq_iff free hfrom) (retarget_eq_iff free hto)

/-- The foreign keys of an entry of a closed document, under whatever name the entry has
now. -/
theorem foreignKeys_of_closed (free : trim u.name = table ∨ trim u.name ∉ d.tables.names)
    {e : String × Table} (he : e ∈ d.tables.entries) (rs : List FieldRename) (owner : String) :
    e.2.foreignKeys.map (fun k => (k.retarget table (trim u.name)).refield (trim u.name) rs owner) =
      e.2.foreignKeys.map fun k => { k.moved table (trim u.name) (renamed rs) with
        field := if owner = trim u.name then renamed rs k.field else k.field } :=
  List.map_congr_left fun k hk =>
    ForeignKey.refield_retarget rs owner (retarget_eq_iff free (hd.foreignKeys e he k hk))

/-- The edited entry. -/
theorem entry_of_closed {i : Nat} (hi : d.tables.entries[i]? = some (table, old)) :
    (d.editedTo table u old free).tables.entries[i]? =
      let ρ := renamed (validRenames old.fields (newFields u) u.renames)
      some (trim u.name, ⟨newFields u, old.foreignKeys.map fun k =>
        { k.moved table (trim u.name) ρ with field := ρ k.field }⟩) := by
  have he := List.mem_of_getElem? hi
  have hk := foreignKeys_of_closed hd free he (validRenames old.fields (newFields u) u.renames) (trim u.name)
  simp only [if_true] at hk
  rw [entries_editedTo (Catalog.get?_eq_some_iff.2 he), List.getElem?_map, hi]
  simp only [Option.map_some, if_true, SchemaAtlas.retarget, hk]

/-- Any other entry. -/
theorem other_entry_of_closed (hold : d.table? table = some old) {j : Nat} {e : String × Table}
    (hj : d.tables.entries[j]? = some e) (hne : e.1 ≠ table) :
    (d.editedTo table u old free).tables.entries[j]? =
      some (e.1, ⟨e.2.fields, e.2.foreignKeys.map
        (·.moved table (trim u.name) (renamed (validRenames old.fields (newFields u) u.renames)))⟩) := by
  have he := List.mem_of_getElem? hj
  have hname : e.1 ≠ trim u.name := by
    intro hc
    rcases free with hn | hn
    · exact hne (hc.trans hn)
    · exact hn (hc ▸ Catalog.mem_names_of_mem he)
  have hk := foreignKeys_of_closed hd free he (validRenames old.fields (newFields u) u.renames) e.1
  simp only [if_neg hname] at hk
  rw [entries_editedTo hold, List.getElem?_map, hj]
  simp only [Option.map_some, if_neg hne, SchemaAtlas.retarget, hk]
  rfl

end Document

open Document in
/-- An accepted update of a closed document is one simultaneous substitution. The tables keep
their number and their places. The edited one, which is the one found under the new name, has
the new fields, and its foreign keys have their own fields renamed. Every reference moves, and
nothing else changes. -/
theorem applyUpdate_effect {d d' : Document} {table : String} {u : TableUpdate} (hd : d.Closed)
    (h : d.applyUpdate table u = .accepted d') :
    ∃ (i : Nat) (old : Table) (ρ : String → String),
      let edited : Table := ⟨u.fields.map Field.trimmed,
        old.foreignKeys.map fun k => { k.moved table (trim u.name) ρ with field := ρ k.field }⟩
      d.tables.entries[i]? = some (table, old) ∧
      (∀ f, RenamesTo old.fields edited.fields u.renames f (ρ f)) ∧
      d'.tables.entries.length = d.tables.entries.length ∧
      d'.tables.entries[i]? = some (trim u.name, edited) ∧ d'.table? (trim u.name) = some edited ∧
      (∀ j e, j ≠ i → d.tables.entries[j]? = some e → d'.tables.entries[j]? =
        some (e.1, ⟨e.2.fields, e.2.foreignKeys.map (·.moved table (trim u.name) ρ)⟩)) ∧
      d'.relationships = d.relationships.map (·.moved table (trim u.name) ρ) ∧
      d'.revision.toNat = d.revision.toNat + 1 := by
  have hrev := revision_of_accepted h
  obtain ⟨-, e, he, rfl⟩ := applyUpdate_accepted h
  obtain ⟨old, free, -, hold, -, rfl⟩ := edited_ok he
  obtain ⟨i, hi⟩ := List.mem_iff_getElem?.1 (Catalog.get?_eq_some_iff.1 hold)
  have hentry := entry_of_closed hd free hi
  refine ⟨i, old, renamed (validRenames old.fields (newFields u) u.renames), hi,
    renamesTo_renamed _ _ _, ?_, hentry, Catalog.get?_eq_some_iff.2 (List.mem_of_getElem? hentry), ?_,
    relationships_of_closed hd free, hrev⟩
  · rw [entries_editedTo hold, List.length_map]
  · intro j e hji hj
    refine other_entry_of_closed hd free hold hj fun hc => hji ?_
    obtain ⟨name, t⟩ := e
    obtain rfl : name = table := hc
    exact Catalog.index_unique hj hi

/-- Two fields of a table that refers to itself swap their names while the table is renamed. -/
theorem applyUpdate_effect_swap :
    let d : Document :=
      ⟨.ofList [("users", ⟨[⟨"id", "INT", true⟩, ⟨"boss", "INT", false⟩], [⟨"boss", "users", "id"⟩]⟩),
          ("orders", ⟨[⟨"user", "INT", false⟩], [⟨"user", "users", "id"⟩]⟩)],
        [⟨"users", "boss", "users", "id"⟩, ⟨"orders", "user", "users", "id"⟩], 7⟩
    let u : TableUpdate :=
      ⟨" people ", [⟨"boss", "INT", true⟩, ⟨"id ", "INT", false⟩], 7, [⟨"id", "boss"⟩, ⟨"boss", "id"⟩]⟩
    let d' : Document :=
      ⟨.ofList [("people", ⟨[⟨"boss", "INT", true⟩, ⟨"id", "INT", false⟩], [⟨"id", "people", "boss"⟩]⟩),
          ("orders", ⟨[⟨"user", "INT", false⟩], [⟨"user", "people", "boss"⟩]⟩)],
        [⟨"people", "id", "people", "boss"⟩, ⟨"orders", "user", "people", "boss"⟩], 8⟩
    d.Closed ∧ d.applyUpdate "users" u = .accepted d' ∧ ∃ (old : Table) (ρ : String → String),
      (∀ f, RenamesTo old.fields (u.fields.map Field.trimmed) u.renames f (ρ f)) ∧
      d'.relationships = d.relationships.map (·.moved "users" "people" ρ) := by
  intro d u d'
  have hd : d.Closed := ⟨by decide +kernel, by decide +kernel⟩
  have h : d.applyUpdate "users" u = .accepted d' := by decide +kernel
  have hname : trim u.name = "people" := by decide +kernel
  obtain ⟨i, old, ρ, -, hρ, -, -, -, -, hr, -⟩ := applyUpdate_effect hd h
  exact ⟨hd, h, old, ρ, hρ, hname ▸ hr⟩

end SchemaAtlas
