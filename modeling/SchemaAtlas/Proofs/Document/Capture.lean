import SchemaAtlas.Proofs.Document.References
/-!
# References are names

A document keeps no more of a reference than the names of a table and a field, and need not
have either of them. So an update follows the references to the table and to its renamed
fields, and leaves the others (`references_by_name`). What a name stands for may change under
it: a reference to a dropped field whose name another field takes leads to that field, and one
to a missing table leads to the edited table once this has the name (`reference_captured`).
-/

namespace SchemaAtlas

open Text (trim)

/-- Both ends of a relationship, each as table and field. -/
def Relationship.ends (r : Relationship) : List (String × String) :=
  [(r.fromTable, r.fromField), (r.toTable, r.toField)]

/-- What a foreign key refers to, as table and field. -/
def ForeignKey.target (k : ForeignKey) : String × String := (k.referencesTable, k.referencesField)

/-! ## What becomes of one reference -/

/-- A reference follows the table `table` to its new name, and then the renamed fields of
what has this name. -/
def followed (table name : String) (rs : List FieldRename) (ref : String × String) : String × String :=
  (retarget table name ref.1, if retarget table name ref.1 = name then renamed rs ref.2 else ref.2)

theorem followed_of_table (table name : String) (rs : List FieldRename) (f : String) :
    followed table name rs (table, f) = (name, renamed rs f) := by
  simp [followed, retarget]

theorem fst_followed_of_ne {table t : String} (h : t ≠ table) (name : String) (rs : List FieldRename)
    (f : String) : (followed table name rs (t, f)).1 = t := by
  simp [followed, retarget, h]

theorem snd_followed_of_ne {table name t f : String} {rs : List FieldRename} (h : t ≠ table)
    (hf : t = name → renamed rs f = f) : (followed table name rs (t, f)).2 = f := by
  simp only [followed, retarget, if_neg h]
  split
  · next ht => exact hf ht
  · rfl

theorem Relationship.ends_followed (table name : String) (rs : List FieldRename) (r : Relationship) :
    ((r.retarget table name).refield name rs).ends = r.ends.map (followed table name rs) :=
  rfl

theorem ForeignKey.target_followed (table name owner : String) (rs : List FieldRename) (k : ForeignKey) :
    ((k.retarget table name).refield name rs owner).target = followed table name rs k.target :=
  rfl

/-- Without a rename of it, a field keeps its name. -/
theorem renamed_eq_self {old new : List Field} {renames : List FieldRename} {f : String}
    (h : ∀ r ∈ renames, ∀ g, ¬ Counts old new r f g) : renamed (validRenames old new renames) f = f := by
  have hto := renamesTo_renamed old new renames f
  generalize renamed (validRenames old new renames) f = g at hto
  cases hto with
  | last he hc _ => exact absurd hc (h _ (by rw [he]; simp) _)
  | kept _ => rfl

/-! ## All references -/

namespace Document

/-- The references of a document in order: the ends of its relationships, and then what the
foreign keys of its tables refer to. -/
def references (d : Document) : List (String × String) :=
  d.relationships.flatMap Relationship.ends ++
    d.tables.entries.flatMap fun e => e.2.foreignKeys.map ForeignKey.target

/-- The reference leads to a field of a table. -/
def Resolves (d : Document) (ref : String × String) : Prop :=
  ∃ t, d.table? ref.1 = some t ∧ ref.2 ∈ t.fields.map Field.name

instance (d : Document) (ref : String × String) : Decidable (d.Resolves ref) :=
  decidable_of_iff ((d.table? ref.1).any fun t => ref.2 ∈ t.fields.map Field.name) (by
    unfold Resolves
    cases d.table? ref.1 <;> simp)

/-- An update keeps each reference in its place. -/
theorem references_editedTo {d : Document} {table : String} {u : TableUpdate} {old : Table}
    (free : trim u.name = table ∨ trim u.name ∉ d.tables.names) (hold : d.table? table = some old) :
    (d.editedTo table u old free).references =
      d.references.map (followed table (trim u.name) (validRenames old.fields (newFields u) u.renames)) := by
  rw [references, references, relationships_editedTo, entries_editedTo hold, List.map_append]
  congr 1
  · simp only [List.flatMap_map, List.map_flatMap, Relationship.ends_followed]
  · simp only [List.flatMap_map, List.map_flatMap, List.map_map, Function.comp_def,
      ForeignKey.target_followed]

/-- The edited table is found under its new name, with the new fields. -/
theorem table?_editedTo {d : Document} {table : String} {u : TableUpdate} {old : Table}
    (free : trim u.name = table ∨ trim u.name ∉ d.tables.names) (hold : d.table? table = some old) :
    ∃ t, (d.editedTo table u old free).table? (trim u.name) = some t ∧ t.fields = newFields u := by
  have he : (table, old) ∈ d.tables.entries := Catalog.get?_eq_some_iff.1 hold
  obtain ⟨t, ht, hfields⟩ : ∃ t, (trim u.name, t) ∈ (d.editedTo table u old free).tables.entries ∧
      t.fields = newFields u := by
    rw [entries_editedTo hold]
    exact ⟨_, List.mem_map.2 ⟨(table, old), he, Prod.ext (if_pos rfl) rfl⟩, if_pos rfl⟩
  exact ⟨t, Catalog.get?_eq_some_iff.2 ht, hfields⟩

/-- What a reference to the edited table leads to is said by the update alone. -/
theorem resolves_editedTo {d : Document} {table : String} {u : TableUpdate} {old : Table}
    (free : trim u.name = table ∨ trim u.name ∉ d.tables.names) (hold : d.table? table = some old)
    (g : String) :
    (d.editedTo table u old free).Resolves (trim u.name, g) ↔ g ∈ (newFields u).map Field.name := by
  obtain ⟨t, ht, hfields⟩ := table?_editedTo free hold
  rw [← hfields]
  constructor
  · rintro ⟨t', ht', hg⟩
    rw [ht] at ht'
    cases ht'
    exact hg
  · intro hg
    exact ⟨t, ht, hg⟩

end Document

open Document in
/-- An accepted update keeps each reference in its place, and changes only names. A reference
to the edited table takes the table's new name, and the new name of the field: the one that
the last rename of the field gives it, or else the one it had. Any other reference keeps its
table, and its field too, unless it is to a table of the new name and to a renamed field. What
is found under the new name is the field that the update calls so, whichever it was before. -/
theorem references_by_name {d d' : Document} {table : String} {u : TableUpdate}
    (h : d.applyUpdate table u = .accepted d') :
    ∃ old, d.table? table = some old ∧ d'.references.length = d.references.length ∧
      ∀ (i : Nat) (t f : String), d.references[i]? = some (t, f) →
        ∃ t' f', d'.references[i]? = some (t', f') ∧
          (t = table → t' = trim u.name ∧ RenamesTo old.fields (newFields u) u.renames f f') ∧
          (t ≠ table → t' = t ∧
            ((t = trim u.name → ∀ r ∈ u.renames, ∀ g, ¬ Counts old.fields (newFields u) r f g) → f' = f)) ∧
          (t' = trim u.name → (d'.Resolves (t', f') ↔ f' ∈ (newFields u).map Field.name)) := by
  obtain ⟨-, e, he, rfl⟩ := applyUpdate_accepted h
  obtain ⟨old, free, -, hold, -, rfl⟩ := edited_ok he
  have hrefs := references_editedTo free hold
  let rs := validRenames old.fields (newFields u) u.renames
  refine ⟨old, hold, (congrArg List.length hrefs).trans (List.length_map _), fun i t f hi => ?_⟩
  refine ⟨(followed table (trim u.name) rs (t, f)).1, (followed table (trim u.name) rs (t, f)).2, ?_, ?_, ?_, ?_⟩
  · exact (congrArg (·[i]?) hrefs).trans (by rw [List.getElem?_map, hi]; rfl)
  · rintro rfl
    rw [followed_of_table]
    exact ⟨rfl, renamesTo_renamed _ _ _ f⟩
  · intro hne
    exact ⟨fst_followed_of_ne hne _ _ _, fun hno => snd_followed_of_ne hne fun ht => renamed_eq_self (hno ht)⟩
  · intro hname
    rw [hname]
    exact resolves_editedTo free hold _

open Document in
/-- A table that refers to itself is renamed along with a field of it. -/
theorem references_by_name_users :
    let users : Table := ⟨[⟨"id", "INT", true⟩, ⟨"mail", "TEXT", false⟩], []⟩
    let d : Document := ⟨.ofList [("users", users)],
      [⟨"users", "id", "users", "mail"⟩, ⟨"orders", "user", "users", "id"⟩], 4⟩
    let u : TableUpdate := ⟨"people", [⟨"key", "INT", true⟩, ⟨"mail", "TEXT", false⟩], 4, [⟨"id", "key"⟩]⟩
    let d' : Document := ⟨.ofList [("people", ⟨u.fields, []⟩)],
      [⟨"people", "key", "people", "mail"⟩, ⟨"orders", "user", "people", "key"⟩], 5⟩
    d.applyUpdate "users" u = .accepted d' ∧ d.references[3]? = some ("users", "id") ∧
      ∃ t' f', d'.references[3]? = some (t', f') ∧ t' = trim u.name ∧
        RenamesTo users.fields (newFields u) u.renames "id" f' := by
  intro users d u d'
  have h : d.applyUpdate "users" u = .accepted d' := by decide +kernel
  obtain ⟨old, hold, -, hrefs⟩ := references_by_name h
  obtain rfl : users = old := Option.some.inj (Eq.trans (by decide +kernel) hold)
  obtain ⟨t', f', hi, htable, -, -⟩ := hrefs 3 "users" "id" (by decide +kernel)
  exact ⟨h, by decide +kernel, t', f', hi, htable rfl⟩

open Document in
/-- Names that come to stand for something else. The field `a` of a table is dropped, and `b`
takes its name: the reference to `a`, which no rename is about, leads to what was `b`. The table
takes the name of a missing one: the reference to the missing table, which was to nothing,
follows the rename of `b` and leads to a field too. -/
theorem reference_captured :
    let users : Table := ⟨[⟨"a", "INT", true⟩, ⟨"b", "INT", false⟩], []⟩
    let d : Document := ⟨.ofList [("users", users), ("orders", ⟨[⟨"user", "INT", false⟩], []⟩)],
      [⟨"orders", "user", "users", "a"⟩, ⟨"orders", "user", "people", "b"⟩], 0⟩
    let u : TableUpdate := ⟨"people", [⟨"a", "INT", false⟩], 0, [⟨"b", "a"⟩]⟩
    let d' : Document := ⟨.ofList [("people", ⟨u.fields, []⟩), ("orders", ⟨[⟨"user", "INT", false⟩], []⟩)],
      [⟨"orders", "user", "people", "a"⟩, ⟨"orders", "user", "people", "a"⟩], 1⟩
    d.applyUpdate "users" u = .accepted d' ∧ d'.Resolves ("people", "a") ∧
      (d.references[1]? = some ("users", "a") ∧ d'.references[1]? = some ("people", "a") ∧
        (∀ r ∈ u.renames, ∀ g, ¬ Counts users.fields (newFields u) r "a" g) ∧
        ∃ r ∈ u.renames, Counts users.fields (newFields u) r "b" "a") ∧
      d.references[3]? = some ("people", "b") ∧ ¬ d.Resolves ("people", "b") ∧
        d'.references[3]? = some ("people", "a") := by
  intro users d u d'
  have h : d.applyUpdate "users" u = .accepted d' := by decide +kernel
  have hfield : d'.Resolves ("people", "a") := ⟨⟨u.fields, []⟩, by decide +kernel, by decide +kernel⟩
  have hmissing : d.table? "people" = none := by decide +kernel
  have hsource : trim "b" = "b" := by decide +kernel
  have hcounts : Counts users.fields (newFields u) ⟨"b", "a"⟩ "b" "a" :=
    ⟨hsource, by decide +kernel, by decide, by decide +kernel, by decide +kernel⟩
  refine ⟨h, hfield, ⟨by decide +kernel, by decide +kernel, ?_, _, List.mem_singleton_self _, hcounts⟩,
    by decide +kernel, ?_, by decide +kernel⟩
  · intro r hr g hc
    rw [List.mem_singleton.1 hr] at hc
    exact absurd (hsource.symm.trans hc.1) (by decide)
  · rintro ⟨t, ht, -⟩
    rw [hmissing] at ht
    cases ht

end SchemaAtlas
