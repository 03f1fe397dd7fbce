import Mathlib.Data.List.Nodup
import SchemaAtlas.Proofs.Document.Capture
import SchemaAtlas.Proofs.Document.Substitution
/-!
# A renaming can be undone

An update that only renames a table and its fields, followed by the one that gives them their
old names, leads back to the same document, two revisions later (`renaming_undone`), provided
that every reference leads to a field. The way back is an update like any other: if the table or
one of its fields had an empty name, which a document may have but no update gives, then it is
refused (`unnamed_not_restored`).
-/

namespace SchemaAtlas

open Text (trim trim_trim)

/-! ## Updates that only rename -/

/-- The field under another name. -/
def Field.renamedBy (φ : String → String) (f : Field) : Field := { f with name := φ f.name }

/-- The renames of the fields that change their names. -/
def changes (φ : String → String) (fields : List Field) : List FieldRename :=
  (fields.filter fun f => φ f.name ≠ f.name).map fun f => ⟨f.name, φ f.name⟩

theorem mem_changes {φ : String → String} {fields : List Field} {r : FieldRename} :
    r ∈ changes φ fields ↔ ∃ f ∈ fields, φ f.name ≠ f.name ∧ r = ⟨f.name, φ f.name⟩ := by
  simp only [changes, List.mem_map, List.mem_filter, decide_eq_true_eq]
  grind

/-- The update gives a table with the fields `old` the name `new`, and renames each field by `φ`.
Its renames are those of the fields that change, in any order. -/
structure TableUpdate.Renames (u : TableUpdate) (new : String) (φ : String → String) (old : List Field) :
    Prop where
  name : u.name = new
  fields : u.fields = old.map (·.renamedBy φ)
  renames : ∀ r, r ∈ u.renames ↔ r ∈ changes φ old

instance (u : TableUpdate) (new : String) (φ : String → String) (old : List Field) :
    Decidable (u.Renames new φ old) :=
  decidable_of_iff (u.name = new ∧ u.fields = old.map (·.renamedBy φ) ∧
      (∀ r ∈ u.renames, r ∈ changes φ old) ∧ ∀ r ∈ changes φ old, r ∈ u.renames)
    ⟨fun ⟨hname, hfields, hsub, hsup⟩ => ⟨hname, hfields, fun r => ⟨hsub r, hsup r⟩⟩,
      fun h => ⟨h.name, h.fields, fun r => (h.renames r).1, fun r => (h.renames r).2⟩⟩

/-- Each field takes its new name, but for blanks. -/
theorem TableUpdate.Renames.newName_eq {u : TableUpdate} {name : String} {φ : String → String} {fields : List Field}
    (h : u.Renames name φ fields) (htrim : ∀ f ∈ fields, trim f.name = f.name) {f : Field} (hf : f ∈ fields) :
    newName fields u f.name = trim (φ f.name) := by
  have hto := renamesTo_renamed fields (Document.newFields u) u.renames f.name
  unfold newName
  generalize renamed (validRenames fields (Document.newFields u) u.renames) f.name = g at hto ⊢
  cases hto with
  | @last before after r _ hsplit hcounts _ =>
    obtain ⟨hsource, htarget, -⟩ := hcounts
    have hr : r ∈ u.renames := by simp [hsplit]
    obtain ⟨f', hf', -, rfl⟩ := mem_changes.1 ((h.renames r).1 hr)
    have hname : f'.name = f.name := (htrim f' hf').symm.trans hsource
    rw [← htarget, hname]
  | kept hno =>
    -- A name that changes by more than blanks has a rename that counts.
    by_contra hne
    have hchange : φ f.name ≠ f.name := by
      intro hc
      rw [hc, htrim f hf] at hne
      exact hne rfl
    refine hno ⟨f.name, φ f.name⟩ ?_ (trim (φ f.name)) ⟨htrim f hf, rfl, hne, List.mem_map_of_mem hf, ?_⟩
    · exact (h.renames _).2 (mem_changes.2 ⟨f, hf, hchange, rfl⟩)
    · simp only [Document.newFields, h.fields, List.map_map, List.mem_map]
      exact ⟨f, hf, rfl⟩

/-! ## There and back -/

theorem moved_back {table name : String} {ρ σ : String → String} {ref : String × String}
    (hself : ref.1 = table → σ (ρ ref.2) = ref.2) (hother : ref.1 = name → ref.1 = table) :
    moved name table σ (moved table name ρ ref) = ref := by
  unfold moved
  by_cases h : ref.1 = table
  · simp only [h, if_true, hself h]
    rw [← h]
  · have hname : ref.1 ≠ name := fun hc => h (hother hc)
    simp [h, hname]

namespace Document

/-- Every reference leads to a field, and every foreign key stands at a field of its table. -/
structure Resolved (d : Document) : Prop where
  references : ∀ ref ∈ d.references, d.Resolves ref
  owners : ∀ e ∈ d.tables.entries, ∀ k ∈ e.2.foreignKeys, k.field ∈ e.2.fields.map Field.name

instance (d : Document) : Decidable d.Resolved :=
  decidable_of_iff ((∀ ref ∈ d.references, d.Resolves ref) ∧
      ∀ e ∈ d.tables.entries, ∀ k ∈ e.2.foreignKeys, k.field ∈ e.2.fields.map Field.name)
    ⟨fun ⟨hreferences, howners⟩ => ⟨hreferences, howners⟩, fun h => ⟨h.references, h.owners⟩⟩

variable {d : Document}

theorem Resolves.mem_tableNames {ref : String × String} (h : d.Resolves ref) : ref.1 ∈ d.tableNames := by
  obtain ⟨t, ht, -⟩ := h
  exact mem_tableNames_of_table? ht

namespace Resolved

variable (h : d.Resolved)
include h

theorem ends {r : Relationship} (hr : r ∈ d.relationships) :
    d.Resolves (r.fromTable, r.fromField) ∧ d.Resolves (r.toTable, r.toField) := by
  have hmem : ∀ ref ∈ r.ends, ref ∈ d.references := fun ref href =>
    List.mem_append_left _ (List.mem_flatMap.2 ⟨r, hr, href⟩)
  exact ⟨h.references _ (hmem _ (by simp [Relationship.ends])), h.references _ (hmem _ (by simp [Relationship.ends]))⟩

theorem target {e : String × Table} (he : e ∈ d.tables.entries) {k : ForeignKey} (hk : k ∈ e.2.foreignKeys) :
    d.Resolves k.target :=
  h.references _ (List.mem_append_right _ (List.mem_flatMap.2 ⟨e, he, List.mem_map_of_mem hk⟩))

theorem closed : d.Closed where
  relationships _ hr := ⟨(h.ends hr).1.mem_tableNames, (h.ends hr).2.mem_tableNames⟩
  foreignKeys _ he _ hk := (h.target he hk).mem_tableNames

end Resolved

section
variable {table name : String} {t : Table} {ρ σ : String → String} (ht : d.table? table = some t)
  (hback : ∀ f ∈ t.fields.map Field.name, σ (ρ f) = f) (free : name = table ∨ name ∉ d.tableNames)
include ht hback free

theorem Resolves.moved_back {ref : String × String} (href : d.Resolves ref) :
    moved name table σ (moved table name ρ ref) = ref := by
  have hmem := href.mem_tableNames
  obtain ⟨t', ht', hfield⟩ := href
  apply SchemaAtlas.moved_back
  · intro htable
    rw [htable, ht] at ht'
    cases ht'
    exact hback _ hfield
  · intro hname
    by_contra htable
    exact ne_of_free free hmem htable hname

theorem Resolved.relationship_back (h : d.Resolved) {r : Relationship} (hr : r ∈ d.relationships) :
    (r.moved table name ρ).moved name table σ = r := by
  obtain ⟨hsource, htarget⟩ := h.ends hr
  have hfrom := hsource.moved_back ht hback free
  have hto := htarget.moved_back ht hback free
  simp only [Relationship.moved, hfrom, hto]

theorem Resolved.foreignKey_back (h : d.Resolved) {e : String × Table} (he : e ∈ d.tables.entries) {k : ForeignKey}
    (hk : k ∈ e.2.foreignKeys) : (k.moved table name ρ).moved name table σ = k := by
  have htarget := (h.target he hk).moved_back ht hback free
  simp only [ForeignKey.target] at htarget
  simp only [ForeignKey.moved, htarget]

theorem Resolved.entry_back (h : d.Resolved) (fields : List Field) {e : String × Table} (he : e ∈ d.tables.entries) :
    movedEntry name table t.fields σ (movedEntry table name fields ρ e) = e := by
  have hkey : ∀ k ∈ e.2.foreignKeys, (k.moved table name ρ).moved name table σ = k :=
    fun k hk => h.foreignKey_back ht hback free he hk
  have howner := h.owners e he
  obtain ⟨n, t'⟩ := e
  unfold movedEntry
  by_cases htable : n = table
  · subst htable
    obtain rfl : t' = t := Catalog.value_unique he ht
    simp only [if_true, List.map_map]
    congr 2
    refine (List.map_congr_left fun k hk => ?_).trans (List.map_id _)
    show ({ (k.moved n name ρ).moved name n σ with field := σ (ρ k.field) } : ForeignKey) = k
    rw [hkey k hk, hback _ (howner k hk)]
  · have hname : n ≠ name := ne_of_free free (Catalog.mem_names_of_mem he) htable
    simp only [htable, hname, if_false, List.map_map]
    congr 2
    exact (List.map_congr_left hkey).trans (List.map_id _)

/-- Two substitutions that undo each other lead back, two revisions later. -/
theorem Substituted.back (h : d.Resolved) {fields : List Field} {d' d'' : Document}
    (hto : d.Substituted table name fields ρ d') (hfrom : d'.Substituted name table t.fields σ d'') :
    d'' = { d with revision := d.revision + 2 } := by
  apply eq_of_parts
  · rw [hfrom.entries, hto.entries, List.map_map]
    exact (List.map_congr_left fun e he => h.entry_back ht hback free fields he).trans (List.map_id _)
  · rw [hfrom.relationships, hto.relationships, List.map_map]
    exact (List.map_congr_left fun r hr => h.relationship_back ht hback free hr).trans (List.map_id _)
  · rw [hfrom.revision, hto.revision, UInt64.add_assoc]
    rfl

end

/-- After the table `table` was renamed, its name is free, or the table has it again. -/
theorem Substituted.free {d' : Document} {table name : String} {fields : List Field} {ρ : String → String}
    (h : d.Substituted table name fields ρ d') : table = name ∨ table ∉ d'.tableNames := by
  by_cases hname : table = name
  · exact .inl hname
  · refine .inr fun hc => ?_
    rw [h.tableNames] at hc
    obtain ⟨n, -, hn⟩ := List.mem_map.1 hc
    unfold SchemaAtlas.retarget at hn
    split at hn
    · exact hname hn.symm
    · next hne => exact hne hn

end Document

/-! ## The way back -/

open Document

section
variable {fields : List Field} {φ ψ : String → String} {u v : TableUpdate} {name table : String}
  (hfields : ∀ f ∈ fields, f.trimmed = f) (hu : u.Renames name φ fields)
  (hψ : ∀ f ∈ fields, ψ (trim (φ f.name)) = f.name) (hv : v.Renames table ψ (newFields u))
include hfields hu hψ hv

/-- The way back brings the fields as they were. -/
theorem fields_of_back : v.fields = fields := by
  rw [hv.fields, newFields, hu.fields, List.map_map, List.map_map]
  refine (List.map_congr_left fun f hf => ?_).trans (List.map_id _)
  have htype : trim f.type = f.type := congrArg Field.type (hfields f hf)
  simp only [Function.comp_apply, Field.renamedBy, Field.trimmed, hψ f hf, htype]
  rfl

theorem newFields_of_back : newFields v = fields := by
  rw [newFields, fields_of_back hfields hu hψ hv]
  exact (List.map_congr_left hfields).trans (List.map_id _)

/-- The way back takes each field to the name it had. -/
theorem newName_of_back {f : String} (hf : f ∈ fields.map Field.name) :
    newName (newFields u) v (newName fields u f) = f := by
  obtain ⟨x, hx, rfl⟩ := List.mem_map.1 hf
  have htrim : ∀ y ∈ fields, trim y.name = y.name := fun y hy => congrArg Field.name (hfields y hy)
  have htrim' : ∀ y ∈ newFields u, trim y.name = y.name := by
    intro y hy
    obtain ⟨z, -, rfl⟩ := List.mem_map.1 hy
    exact trim_trim z.name
  have hstored : (x.renamedBy φ).trimmed ∈ newFields u := by
    rw [newFields, hu.fields]
    exact List.mem_map_of_mem (List.mem_map_of_mem hx)
  calc newName (newFields u) v (newName fields u x.name)
      = newName (newFields u) v (x.renamedBy φ).trimmed.name := by rw [hu.newName_eq htrim hx]; rfl
    _ = trim (ψ (trim (φ x.name))) := hv.newName_eq htrim' hstored
    _ = x.name := by rw [hψ x hx, htrim x hx]

/-- What the way back defines is acceptable exactly if all names are there. -/
theorem acceptable_back_iff (htable : trim table = table) (hok : Acceptable u.name u.fields) :
    Acceptable v.name v.fields ↔ table ≠ "" ∧ ∀ f ∈ fields, f.name ≠ "" := by
  have htrim : storedNames fields = fields.map Field.name :=
    List.map_congr_left fun f hf => congrArg Field.name (hfields f hf)
  have hdistinct : (storedNames fields).Nodup := by
    -- Names that are the same would be renamed alike.
    have hnew := hok.fields.distinct
    have heq : storedNames u.fields = (fields.map Field.name).map fun n => trim (φ n) := by
      rw [storedNames, hu.fields, List.map_map, List.map_map]
      rfl
    rw [heq] at hnew
    rw [htrim]
    exact List.Nodup.of_map _ hnew
  rw [hv.name, fields_of_back hfields hu hψ hv]
  constructor
  · intro h
    refine ⟨htable ▸ h.name, fun f hf => h.fields.nonempty f.name ?_⟩
    rw [htrim]
    exact List.mem_map_of_mem hf
  · rintro ⟨hname, hnonempty⟩
    refine ⟨htable.symm ▸ hname, ?_, hdistinct⟩
    intro n hn
    rw [htrim] at hn
    obtain ⟨f, hf, rfl⟩ := List.mem_map.1 hn
    exact hnonempty f hf

end

/-- In a document in which every reference leads to a field, take a table whose name, fields and
types are trimmed. Once an update that renames the table and its fields is accepted, so is the one
that gives them their old names, and the document is as it was, two revisions later; unless the
table or one of its fields had no name, and then the way back is refused for that. -/
theorem renaming_undone {d d' : Document} (hrev : d.revision.toNat + 1 < lastRevision.toNat) (hd : d.Resolved)
    {table name : String} {t : Table} (ht : d.table? table = some t) (htable : trim table = table)
    (hfields : ∀ f ∈ t.fields, f.trimmed = f) {φ ψ : String → String} {u v : TableUpdate}
    (hu : u.Renames name φ t.fields) (h : d.applyUpdate table u = .accepted d')
    (hψ : ∀ f ∈ t.fields, ψ (trim (φ f.name)) = f.name) (hv : v.Renames table ψ (newFields u))
    (hbase : v.baseRevision = d'.revision) :
    (table ≠ "" ∧ (∀ f ∈ t.fields, f.name ≠ "") →
      d'.applyUpdate (trim name) v = .accepted { d with revision := d.revision + 2 }) ∧
    (table = "" ∨ (∃ f ∈ t.fields, f.name = "") →
      ∃ flaw, d'.applyUpdate (trim name) v = .refused (.invalid flaw)) := by
  have hlast : d.revision ≠ lastRevision := ne_lastRevision (by omega)
  have haccepts := (applyUpdate_accepted_iff hlast).1 ⟨d', h⟩
  have hacceptable := acceptable_back_iff hfields hu hψ hv htable haccepts.acceptable
  obtain ⟨old, hold, hto⟩ := substituted_of_accepted hd.closed h
  obtain rfl : t = old := Option.some.inj (ht.symm.trans hold)
  obtain rfl : u.name = name := hu.name
  have hstored := hto.table?_self ht
  have hknown : trim u.name ∈ d'.tableNames := mem_tableNames_of_table? hstored
  have hname : trim v.name = table := by rw [hv.name, htable]
  constructor
  · intro hnames
    have hlast' : d'.revision ≠ lastRevision := ne_lastRevision (by rw [hto.toNat_revision hlast]; omega)
    have hfree : trim v.name = trim u.name ∨ trim v.name ∉ d'.tableNames := hname ▸ hto.free
    obtain ⟨d'', h'⟩ := (applyUpdate_accepted_iff hlast').2 ⟨hbase, hknown, hacceptable.2 hnames, hfree⟩
    obtain ⟨old', hold', hfrom⟩ := substituted_of_accepted (hto.closed hd.closed) h'
    obtain rfl : _ = old' := Option.some.inj (hstored.symm.trans hold')
    rw [hname, newFields_of_back hfields hu hψ hv] at hfrom
    have hback : ∀ f ∈ t.fields.map Field.name, newName (newFields u) v (newName t.fields u f) = f :=
      fun f hf => newName_of_back hfields hu hψ hv hf
    rw [h', Substituted.back ht hback haccepts.free hd hto hfrom]
  · intro hnone
    have hno : ¬ Acceptable v.name v.fields := by
      rw [hacceptable]
      rintro ⟨hne, hnonempty⟩
      rcases hnone with hc | ⟨f, hf, hc⟩
      · exact hne hc
      · exact hnonempty f hf hc
    obtain ⟨flaw, hflaw⟩ := refuses_invalid_iff.2 ⟨hbase, hknown, hno⟩
    exact ⟨flaw, applyUpdate_refused_iff.2 hflaw⟩

/-- The fields of a table that refers to itself swap their names while it is renamed, and back. -/
theorem renaming_undone_swap :
    let t : Table := ⟨[⟨"a", "INT", true⟩, ⟨"b", "INT", false⟩], [⟨"b", "nodes", "a"⟩]⟩
    let links : List Field := [⟨"end", "INT", false⟩]
    let d : Document := ⟨.ofList [("nodes", t), ("links", ⟨links, [⟨"end", "nodes", "b"⟩]⟩)],
      [⟨"nodes", "b", "nodes", "a"⟩, ⟨"links", "end", "nodes", "b"⟩], 4⟩
    let φ : String → String := fun f => if f = "a" then " b" else "a"
    let ψ : String → String := fun f => if f = "b" then "a" else "b"
    let u : TableUpdate := ⟨" points ", [⟨" b", "INT", true⟩, ⟨"a", "INT", false⟩], 4, [⟨"a", " b"⟩, ⟨"b", "a"⟩]⟩
    let d' : Document :=
      ⟨.ofList [("points", ⟨[⟨"b", "INT", true⟩, ⟨"a", "INT", false⟩], [⟨"a", "points", "b"⟩]⟩),
          ("links", ⟨links, [⟨"end", "points", "a"⟩]⟩)],
        [⟨"points", "a", "points", "b"⟩, ⟨"links", "end", "points", "a"⟩], 5⟩
    let v : TableUpdate := ⟨"nodes", t.fields, 5, [⟨"b", "a"⟩, ⟨"a", "b"⟩]⟩
    d.Resolved ∧ d.table? "nodes" = some t ∧ u.Renames " points " φ t.fields ∧ v.Renames "nodes" ψ (newFields u) ∧
      d.applyUpdate "nodes" u = .accepted d' ∧
      d'.applyUpdate (trim " points ") v = .accepted { d with revision := d.revision + 2 } := by
  intro t links d φ ψ u d' v
  have hd : d.Resolved := by decide +kernel
  have ht : d.table? "nodes" = some t := by decide +kernel
  have hu : u.Renames " points " φ t.fields := by decide +kernel
  have hv : v.Renames "nodes" ψ (newFields u) := by decide +kernel
  have h : d.applyUpdate "nodes" u = .accepted d' := by decide +kernel
  have hψ : ∀ f ∈ t.fields, ψ (trim (φ f.name)) = f.name := by decide +kernel
  have hback := renaming_undone (by decide) hd ht (by decide +kernel) (by decide +kernel) hu h hψ hv rfl
  exact ⟨hd, ht, hu, hv, h, hback.1 (by decide +kernel)⟩

/-- Names that an update does not give. A document has a table without a name, and a table with a
field without a name; all else is as it should be. Each of the two can be renamed, and neither can
be given its old name. -/
theorem unnamed_not_restored :
    let key : Field := ⟨"id", "INT", true⟩
    let unnamed : Field := ⟨"", "INT", true⟩
    let d : Document := ⟨.ofList [("", ⟨[key], []⟩), ("users", ⟨[unnamed], []⟩)], [], 0⟩
    let u : TableUpdate := ⟨"people", [key], 0, []⟩
    let d' : Document := ⟨.ofList [("people", ⟨[key], []⟩), ("users", ⟨[unnamed], []⟩)], [], 1⟩
    let v : TableUpdate := ⟨"", [key], 1, []⟩
    let w : TableUpdate := ⟨"users", [key], 0, [⟨"", "id"⟩]⟩
    let d'' : Document := ⟨.ofList [("", ⟨[key], []⟩), ("users", ⟨[key], []⟩)], [], 1⟩
    let x : TableUpdate := ⟨"users", [unnamed], 1, [⟨"id", ""⟩]⟩
    d.Resolved ∧ (∀ n ∈ d.tableNames, trim n = n) ∧
      (∀ e ∈ d.tables.entries, (∀ f ∈ e.2.fields, f.trimmed = f) ∧ (e.2.fields.map Field.name).Nodup) ∧
      (u.Renames "people" id [key] ∧ d.applyUpdate "" u = .accepted d' ∧ v.Renames "" id (newFields u) ∧
        d'.applyUpdate "people" v = .refused (.invalid .noTableName)) ∧
      (w.Renames "users" (fun _ => "id") [unnamed] ∧ d.applyUpdate "users" w = .accepted d'' ∧
        x.Renames "users" (fun _ => "") (newFields w) ∧
        d''.applyUpdate "users" x = .refused (.invalid (.unnamedField 1))) := by
  decide +kernel

end SchemaAtlas
