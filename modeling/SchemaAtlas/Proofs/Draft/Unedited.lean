import SchemaAtlas.Proofs.Draft.Agreement
/-!
# Saving a draft that was not edited

A document may have names with blanks around them, and an update stores all names trimmed. So
even a draft that was not edited renames: a table is followed to its trimmed name, but a field is
not, because both ends of its rename are trimmed before they are compared
(`validRenames_unedited`). A reference to a field of the table therefore keeps its place exactly
if the field's name was trimmed, and otherwise leads nowhere (`unedited_keeps_iff`).
-/

namespace SchemaAtlas

open Text (trim trim_trim)

namespace Document

/-- All that names a field, as table and field: the references, and then, for each foreign key,
the field that it stands at. -/
def mentions (d : Document) : List (String × String) :=
  d.references ++ d.tables.entries.flatMap fun e => e.2.foreignKeys.map fun k => (e.1, k.field)

/-- The reference leads to the field at place `j` of the table at place `i`. -/
def LeadsTo (d : Document) (ref : String × String) (i j : Nat) : Prop :=
  ∃ e, d.tables.entries[i]? = some e ∧ e.1 = ref.1 ∧ ∃ f, e.2.fields[j]? = some f ∧ f.name = ref.2

/-- A reference resolves if there is a place that it leads to. -/
theorem resolves_iff_leadsTo {d : Document} {ref : String × String} : d.Resolves ref ↔ ∃ i j, d.LeadsTo ref i j := by
  constructor
  · rintro ⟨t, ht, hfield⟩
    obtain ⟨f, hf, hname⟩ := List.mem_map.1 hfield
    obtain ⟨i, hi⟩ := List.mem_iff_getElem?.1 (Catalog.get?_eq_some_iff.1 ht)
    obtain ⟨j, hj⟩ := List.mem_iff_getElem?.1 hf
    exact ⟨i, j, (ref.1, t), hi, rfl, f, hj, hname⟩
  · rintro ⟨i, j, e, hi, hname, f, hj, hfield⟩
    refine ⟨e.2, Catalog.get?_eq_some_iff.2 ?_, List.mem_map.2 ⟨f, List.mem_of_getElem? hj, hfield⟩⟩
    rw [← hname]
    exact List.mem_of_getElem? hi

/-! ## Where references lead after an update -/

section
variable {d : Document} {table : String} {u : TableUpdate} {old : Table}
  (free : trim u.name = table ∨ trim u.name ∉ d.tables.names) (hold : d.table? table = some old)
include hold

theorem mentions_editedTo : (d.editedTo table u old free).mentions =
    d.mentions.map (followed table (trim u.name) (validRenames old.fields (newFields u) u.renames)) := by
  rw [mentions, mentions, references_editedTo free hold, entries_editedTo hold, List.map_append]
  congr 1
  simp only [List.flatMap_map, List.map_flatMap, List.map_map]
  rfl

theorem leadsTo_iff {f : String} {i j : Nat} : d.LeadsTo (table, f) i j ↔
    d.tables.entries[i]? = some (table, old) ∧ ∃ x, old.fields[j]? = some x ∧ x.name = f := by
  constructor
  · rintro ⟨⟨n, t⟩, hi, rfl, hfield⟩
    obtain rfl : t = old := Catalog.value_unique (List.mem_of_getElem? hi) hold
    exact ⟨hi, hfield⟩
  · rintro ⟨hi, hfield⟩
    exact ⟨(table, old), hi, rfl, hfield⟩

theorem leadsTo_editedTo {ref : String × String} {i j : Nat} :
    (d.editedTo table u old free).LeadsTo ref i j ↔
      ∃ e, d.tables.entries[i]? = some e ∧ SchemaAtlas.retarget table (trim u.name) e.1 = ref.1 ∧
        ∃ f, (if e.1 = table then newFields u else e.2.fields)[j]? = some f ∧ f.name = ref.2 := by
  unfold LeadsTo
  rw [entries_editedTo hold, List.getElem?_map]
  constructor
  · rintro ⟨e', he', hname, hfield⟩
    obtain ⟨e, he, rfl⟩ := Option.map_eq_some_iff.1 he'
    exact ⟨e, he, hname, hfield⟩
  · rintro ⟨e, he, hname, hfield⟩
    exact ⟨_, Option.map_eq_some_iff.2 ⟨e, he, rfl⟩, hname, hfield⟩

/-- Under the new name stands the edited table, with the new fields. -/
theorem leadsTo_editedTo_self {f : String} {i j : Nat} :
    (d.editedTo table u old free).LeadsTo (trim u.name, f) i j ↔
      d.tables.entries[i]? = some (table, old) ∧ ∃ x, (newFields u)[j]? = some x ∧ x.name = f := by
  rw [leadsTo_editedTo free hold]
  constructor
  · rintro ⟨⟨n, t⟩, hi, hname, hfield⟩
    have hmem := List.mem_of_getElem? hi
    obtain rfl : n = table := (retarget_eq_iff free (Catalog.mem_names_of_mem hmem)).1 hname
    obtain rfl : t = old := Catalog.value_unique hmem hold
    rw [if_pos rfl] at hfield
    exact ⟨hi, hfield⟩
  · rintro ⟨hi, hfield⟩
    refine ⟨(table, old), hi, if_pos rfl, ?_⟩
    rwa [if_pos rfl]

/-- Under the name of another table stand its fields, as before. -/
theorem leadsTo_editedTo_of_ne {n f : String} (hne : n ≠ table) (hn : n ∈ d.tableNames) {i j : Nat} :
    (d.editedTo table u old free).LeadsTo (n, f) i j ↔ d.LeadsTo (n, f) i j := by
  have hname : n ≠ trim u.name := ne_of_free free hn hne
  rw [leadsTo_editedTo free hold]
  refine exists_congr fun e => and_congr_right fun _ => ?_
  unfold SchemaAtlas.retarget
  by_cases he : e.1 = table
  · simp [he, hname.symm, hne.symm]
  · simp [he]

end
end Document

/-! ## What an unedited draft sends -/

/-- Renames that change no more than blanks do not count. -/
theorem validRenames_eq_nil {old new : List Field} {renames : List FieldRename}
    (h : ∀ r ∈ renames, trim r.source = trim r.target) : validRenames old new renames = [] := by
  unfold validRenames
  rw [List.filter_eq_nil_iff]
  intro r hr
  obtain ⟨r', hr', rfl⟩ := List.mem_map.1 hr
  simp [h r' hr']

section
variable {table : String} {t : Table} {revision : UInt64} {u : TableUpdate}
  (hu : (Draft.ofTable table t revision).toUpdate = .ok u)
include hu

theorem validRenames_unedited (new : List Field) : validRenames t.fields new u.renames = [] := by
  apply validRenames_eq_nil
  rw [Draft.toUpdate_ok hu]
  intro r hr
  obtain ⟨row, hrow, hrename⟩ := List.mem_filterMap.1 hr
  obtain ⟨f, -, rfl⟩ := List.mem_map.1 hrow
  obtain ⟨source, hsource, -, rfl⟩ := Draft.rename?_eq_some.1 hrename
  cases hsource
  exact (trim_trim f.name).symm

theorem getElem?_unedited (j : Nat) (f : String) :
    (∃ x, (Document.newFields u)[j]? = some x ∧ x.name = f) ↔ ∃ x, t.fields[j]? = some x ∧ trim x.name = f := by
  rw [Draft.newFields_of_toUpdate hu, Draft.toUpdate_ok hu]
  simp [Draft.ofTable, Draft.field]

theorem storedNames_unedited : storedNames u.fields = t.fields.map fun f => trim f.name := by
  rw [Draft.toUpdate_ok hu]
  simp [storedNames, Draft.ofTable, Draft.field, trim_trim]

/-- No two fields have the same name, blanks apart. -/
theorem index_unedited {i j : Nat} {x y : Field} (hi : t.fields[i]? = some x) (hj : t.fields[j]? = some y)
    (hname : trim x.name = trim y.name) : i = j := by
  have hdistinct := (Draft.acceptable_of_toUpdate hu).fields.distinct
  rw [storedNames_unedited hu] at hdistinct
  obtain ⟨hlt, -⟩ := List.getElem?_eq_some_iff.1 hi
  refine (List.getElem?_inj (by simpa using hlt) hdistinct).1 ?_
  rw [List.getElem?_map, List.getElem?_map, hi, hj, Option.map_some, Option.map_some, hname]

/-! ## Where references lead after an unedited draft is saved -/

open Document in
/-- A reference to the saved table leads to where the field's name is what it was. -/
theorem leadsTo_unedited {d : Document} (ht : d.table? table = some t)
    (free : trim u.name = table ∨ trim u.name ∉ d.tables.names) {f : String} {i j : Nat}
    (hlead : d.LeadsTo (table, f) i j) :
    ((d.editedTo table u t free).LeadsTo (trim u.name, f) i j ↔ trim f = f) ∧
      ∀ i' j', (d.editedTo table u t free).LeadsTo (trim u.name, f) i' j' → d.LeadsTo (table, f) i' j' := by
  obtain ⟨hi, x, hj, rfl⟩ := (leadsTo_iff ht).1 hlead
  constructor
  · rw [leadsTo_editedTo_self free ht, getElem?_unedited hu]
    constructor
    · rintro ⟨-, y, hy, hname⟩
      cases hj.symm.trans hy
      exact hname
    · intro htrim
      exact ⟨hi, x, hj, htrim⟩
  · intro i' j' h
    rw [leadsTo_editedTo_self free ht, getElem?_unedited hu] at h
    obtain ⟨hi', y, hy, hname⟩ := h
    -- Both fields are stored under the name that is referred to.
    have hstored : trim x.name = trim y.name := by rw [← hname, trim_trim]
    obtain rfl := index_unedited hu hj hy hstored
    exact (leadsTo_iff ht).2 ⟨hi', x, hj, rfl⟩

end

open Document in
/-- Save a draft as it was opened. Whatever names a field, at either end of a relationship or of a
foreign key, and led to one before, still leads to the field at the same place of the table at the
same place, exactly if it was not to the saved table or its field had no blanks around its name.
It leads nowhere else: one that was to a name with blanks is lost. -/
theorem unedited_keeps_iff {d d' : Document} {table : String} {t : Table} (ht : d.table? table = some t)
    {u : TableUpdate} (hu : (Draft.ofTable table t d.revision).toUpdate = .ok u)
    (h : d.applyUpdate table u = .accepted d') :
    d'.mentions.length = d.mentions.length ∧
    ∀ (n i j : Nat) (ref : String × String), d.mentions[n]? = some ref → d.LeadsTo ref i j →
      ∃ ref', d'.mentions[n]? = some ref' ∧
        (d'.LeadsTo ref' i j ↔ (ref.1 = table → trim ref.2 = ref.2)) ∧
        ∀ i' j', d'.LeadsTo ref' i' j' → d.LeadsTo ref i' j' := by
  obtain ⟨-, e, he, rfl⟩ := applyUpdate_accepted h
  obtain ⟨old, free, -, hold, -, rfl⟩ := edited_ok he
  obtain rfl : t = old := Option.some.inj (ht.symm.trans hold)
  have hmentions := mentions_editedTo free ht
  rw [validRenames_unedited hu] at hmentions
  refine ⟨(congrArg List.length hmentions).trans (List.length_map _), ?_⟩
  rintro n i j ⟨name, f⟩ hn hlead
  refine ⟨followed table (trim u.name) [] (name, f), ?_, ?_⟩
  · exact (congrArg (·[n]?) hmentions).trans (by rw [List.getElem?_map, hn]; rfl)
  · by_cases hname : name = table
    · subst hname
      obtain ⟨hkept, honly⟩ := leadsTo_unedited hu ht free hlead
      rw [followed_of_table]
      refine ⟨hkept.trans ?_, honly⟩
      simp
    · have hmem : name ∈ d.tableNames := by
        obtain ⟨e, hi, rfl, -⟩ := hlead
        exact Catalog.mem_names_of_mem (List.mem_of_getElem? hi)
      have hsame : followed table (trim u.name) [] (name, f) = (name, f) :=
        Prod.ext (fst_followed_of_ne hname _ _ _) (snd_followed_of_ne hname fun _ => rfl)
      have hiff : ∀ i' j', (d.editedTo table u t free).LeadsTo (name, f) i' j' ↔ d.LeadsTo (name, f) i' j' :=
        fun i' j' => leadsTo_editedTo_of_ne free ht hname hmem
      rw [hsame]
      refine ⟨(hiff i j).trans ?_, fun i' j' => (hiff i' j').1⟩
      simp [hlead, hname]

open Document in
/-- A table and one of its two fields have blanks around their names. The reference to the other
field follows the table and keeps its place; the one to this field does not. -/
theorem unedited_keeps_iff_users :
    let users : Table := ⟨[⟨"id", "INT", true⟩, ⟨"mail ", "TEXT", false⟩], []⟩
    let orders : Table := ⟨[⟨"user", "INT", false⟩, ⟨"mail", "TEXT", false⟩], []⟩
    let d : Document := ⟨.ofList [(" users", users), ("orders", orders)],
      [⟨"orders", "user", " users", "id"⟩, ⟨"orders", "mail", " users", "mail "⟩], 0⟩
    let u : TableUpdate := ⟨"users", [⟨"id", "INT", true⟩, ⟨"mail", "TEXT", false⟩], 0, [⟨"mail ", "mail"⟩]⟩
    let d' : Document := ⟨.ofList [("users", ⟨u.fields, []⟩), ("orders", orders)],
      [⟨"orders", "user", "users", "id"⟩, ⟨"orders", "mail", "users", "mail "⟩], 1⟩
    d.table? " users" = some users ∧ (Draft.ofTable " users" users 0).toUpdate = .ok u ∧
      d.applyUpdate " users" u = .accepted d' ∧
      (d.mentions[1]? = some (" users", "id") ∧ d.LeadsTo (" users", "id") 0 0 ∧
        ∃ ref', d'.mentions[1]? = some ref' ∧ d'.LeadsTo ref' 0 0) ∧
      d.mentions[3]? = some (" users", "mail ") ∧ d.LeadsTo (" users", "mail ") 0 1 ∧
        ∃ ref', d'.mentions[3]? = some ref' ∧ ¬ d'.LeadsTo ref' 0 1 := by
  intro users orders d u d'
  have ht : d.table? " users" = some users := by decide +kernel
  have hu : (Draft.ofTable " users" users d.revision).toUpdate = .ok u := by cbv
  have h : d.applyUpdate " users" u = .accepted d' := by decide +kernel
  have hid : d.LeadsTo (" users", "id") 0 0 := ⟨_, rfl, rfl, _, rfl, rfl⟩
  have hmail : d.LeadsTo (" users", "mail ") 0 1 := ⟨_, rfl, rfl, _, rfl, rfl⟩
  have hblanks : trim "mail " ≠ "mail " := by decide +kernel
  obtain ⟨-, hkept⟩ := unedited_keeps_iff ht hu h
  obtain ⟨ref, href, hiff, -⟩ := hkept 1 0 0 _ (by decide +kernel) hid
  obtain ⟨ref', href', hiff', -⟩ := hkept 3 0 1 _ (by decide +kernel) hmail
  refine ⟨ht, hu, h, ⟨by decide +kernel, hid, ref, href, hiff.2 fun _ => by decide +kernel⟩, by decide +kernel, hmail,
    ref', href', fun hc => hblanks (hiff'.1 hc rfl)⟩

open Document in
/-- References lost by saving what was opened. A table with blanks around the names of its fields
refers to itself. Each end of the relationship and of the foreign key led to a field; once the
unedited draft is saved, none does. -/
theorem blank_references_lost :
    let users : Table := ⟨[⟨" id", "INT", true⟩, ⟨"boss ", "INT", false⟩], [⟨"boss ", "users", " id"⟩]⟩
    let d : Document := ⟨.ofList [("users", users)], [⟨"users", "boss ", "users", " id"⟩], 0⟩
    let u : TableUpdate := ⟨"users", [⟨"id", "INT", true⟩, ⟨"boss", "INT", false⟩], 0,
      [⟨" id", "id"⟩, ⟨"boss ", "boss"⟩]⟩
    let d' : Document := ⟨.ofList [("users", ⟨u.fields, users.foreignKeys⟩)], d.relationships, 1⟩
    d.table? "users" = some users ∧ (Draft.ofTable "users" users 0).toUpdate = .ok u ∧
      d.applyUpdate "users" u = .accepted d' ∧
      (∀ ref ∈ d.mentions, ∃ i j, d.LeadsTo ref i j) ∧ ∀ ref ∈ d'.mentions, ¬ ∃ i j, d'.LeadsTo ref i j := by
  intro users d u d'
  have hu : (Draft.ofTable "users" users 0).toUpdate = .ok u := by cbv
  simp only [← resolves_iff_leadsTo]
  exact ⟨by decide +kernel, hu, by decide +kernel, by decide +kernel, by decide +kernel⟩

end SchemaAtlas
