import SchemaAtlas.Proofs.Document.Capture
import SchemaAtlas.Proofs.Document.Refusals
/-!
# Updating a document in place

An update of a stored document is carried out step by step: the table is taken out, put back
under its new name, and the references are rewritten, each step on what the one before it left
in the store. Two of the steps can break off, where a table is not found, and what was done
before would stay. They never do: whatever they would report, the steps come to the same as the
update that is described at once (`applyUpdate_iff`), and one that is refused leaves the store
as it was.
-/

namespace SchemaAtlas

open Text (trim)

/-! ## Taking an entry out and putting one in -/

namespace Catalog

variable {α : Type}

/-- Takes the entry of a name out; those behind it move up. -/
def without (c : Catalog α) (name : String) : Catalog α where
  entries := c.entries.filter (·.1 ≠ name)
  distinct := c.distinct.sublist (List.filter_sublist.map Prod.fst)

theorem not_mem_names_without (c : Catalog α) (name : String) : name ∉ (c.without name).names := by
  intro h
  obtain ⟨e, he, hname⟩ := List.mem_map.1 h
  exact absurd hname (by simpa using (List.mem_filter.1 he).2)

/-- Puts an entry in at a place; those from there on move back. An entry that has the name
already is moved. -/
def insertAt (c : Catalog α) (i : Nat) (name : String) (a : α) : Catalog α where
  entries := (c.without name).entries.take i ++ (name, a) :: (c.without name).entries.drop i
  distinct := by
    have hperm : ((c.without name).entries.take i ++ (name, a) :: (c.without name).entries.drop i).Perm
        ((name, a) :: (c.without name).entries) := by
      refine List.perm_middle.trans (List.Perm.cons _ ?_)
      rw [List.take_append_drop]
    rw [(hperm.map Prod.fst).nodup_iff, List.map_cons, List.nodup_cons]
    exact ⟨c.not_mem_names_without name, (c.without name).distinct⟩

theorem renameEntries_eq_self {es : List (String × α)} {old new : String} {a : α}
    (h : old ∉ es.map Prod.fst) : renameEntries old new a es = es := by
  refine (List.map_congr_left fun e he => ?_).trans (List.map_id es)
  exact if_neg fun hc : e.1 = old => h (hc ▸ List.mem_map_of_mem he)

theorem filter_ne_eq_self {es : List (String × α)} {name : String} (h : name ∉ es.map Prod.fst) :
    es.filter (·.1 ≠ name) = es := by
  refine List.filter_eq_self.2 fun e he => ?_
  simpa using fun hc : e.1 = name => h (hc ▸ List.mem_map_of_mem he)

/-- Renaming an entry is taking it out and putting it in at its place. -/
theorem renameEntries_eq_insert {old new : String} {a : α} {es : List (String × α)} {i : Nat}
    (hnodup : (es.map Prod.fst).Nodup) (hi : (es.map Prod.fst).findIdx? (· == old) = some i) :
    renameEntries old new a es =
      (es.filter (·.1 ≠ old)).take i ++ (new, a) :: (es.filter (·.1 ≠ old)).drop i := by
  induction es generalizing i with
  | nil => simp at hi
  | cons e es ih =>
    simp only [List.map_cons, List.nodup_cons] at hnodup
    rw [List.map_cons, List.findIdx?_cons] at hi
    by_cases he : e.1 = old
    · have hi0 : i = 0 := by simpa [he] using hi.symm
      have hout : old ∉ es.map Prod.fst := he ▸ hnodup.1
      rw [List.filter_cons_of_neg (by simp [he]), filter_ne_eq_self hout, hi0]
      show (if e.1 = old then (new, a) else e) :: renameEntries old new a es = _
      rw [if_pos he, renameEntries_eq_self hout]
      rfl
    · have hne : (e.1 == old) = false := by simpa using he
      simp only [hne, Bool.false_eq_true, if_false, Option.map_eq_some_iff] at hi
      obtain ⟨j, hj, rfl⟩ := hi
      rw [List.filter_cons_of_pos (by simp [he])]
      show (if e.1 = old then (new, a) else e) :: renameEntries old new a es = _
      rw [if_neg he, ih hnodup.2 hj]
      rfl

theorem insertAt_without {c : Catalog α} {old new : String} {i : Nat} (hi : c.indexOf? old = some i) (a : α)
    (free : new = old ∨ new ∉ c.names) : (c.without old).insertAt i new a = c.rename old new a free := by
  have hout : new ∉ (c.without old).entries.map Prod.fst := by
    rcases free with rfl | hnew
    · exact c.not_mem_names_without _
    · exact fun hc => hnew ((List.filter_sublist.map Prod.fst).subset hc)
  have hsame : ((c.without old).without new).entries = c.entries.filter (·.1 ≠ old) := filter_ne_eq_self hout
  refine ext_entries ?_
  show _ ++ _ :: _ = renameEntries old new a c.entries
  rw [hsame, renameEntries_eq_insert c.distinct hi]

theorem exists_indexOf? {c : Catalog α} {name : String} (h : name ∈ c.names) : ∃ i, c.indexOf? name = some i := by
  rw [← Option.isSome_iff_exists, indexOf?, List.findIdx?_isSome, List.any_eq_true]
  exact ⟨name, h, by simp⟩

theorem indexOf?_eq_none {c : Catalog α} {name : String} (h : name ∉ c.names) : c.indexOf? name = none := by
  rw [indexOf?, List.findIdx?_eq_none_iff]
  intro n hn
  simpa using fun hc : n = name => h (hc ▸ hn)

theorem map_eq_self {c : Catalog α} {f : String → α → α} (h : ∀ n a, f n a = a) : c.map f = c := by
  refine ext_entries ((List.map_congr_left fun e _ => ?_).trans (List.map_id _))
  rw [h]
  rfl

end Catalog

/-! ## The steps -/

namespace Document

/-- The checks of an update, which find the place of the table. -/
def check (d : Document) (table : String) (u : TableUpdate) : Except UpdateError Nat :=
  if u.baseRevision ≠ d.revision then .error (.revisionConflict u.baseRevision d.revision)
  else match d.tables.indexOf? table with
  | none => .error (.unknownTable table)
  | some i =>
    match tableFlaw? (trim u.name) u.fields with
    | some flaw => .error (.invalid flaw)
    | none =>
      if trim u.name ≠ table ∧ trim u.name ∈ d.tables.names then .error (.nameTaken (trim u.name))
      else .ok i

/-- The changes of an update, one after the other, to a document in which the table `old` was
found at the place `i`. References are rewritten only where there is something to follow. -/
def changed (d : Document) (table : String) (u : TableUpdate) (old : Table) (i : Nat) : Document :=
  let rs := validRenames old.fields (newFields u) u.renames
  let d : Document := { d with tables := d.tables.without table }
  let d : Document := { d with tables := d.tables.insertAt i (trim u.name) { old with fields := newFields u } }
  let d := if trim u.name ≠ table then d.retarget table (trim u.name) else d
  let d := if rs ≠ [] then d.refield (trim u.name) rs else d
  { d with revision := d.revision + 1 }

/-- Updates a stored document: the stored table or an error, and what is stored then. What is
reported if the table is `gone` when it is to be taken out, or `lost` when all is done, is left
open. -/
def updateInPlace (gone lost : UpdateError) (d : Document) (table : String) (u : TableUpdate) :
    Except UpdateError Table × Document :=
  match d.check table u with
  | .error e => (.error e, d)
  | .ok i =>
    match d.tables.get? table with
    | none => (.error gone, d)
    | some old =>
      let after := d.changed table u old i
      match after.tables.get? (trim u.name) with
      | none => (.error lost, after)
      | some t => (.ok t, after)

variable {d : Document} {table : String} {u : TableUpdate}

theorem check_of_refuses {e : UpdateError} (h : d.Refuses table u e) : d.check table u = .error e := by
  unfold check
  cases h with
  | conflict hrev => exact if_pos hrev
  | unknown hrev htable =>
    simp only [hrev, Catalog.indexOf?_eq_none htable, ne_eq, not_true_eq_false, if_false]
  | invalid hrev htable hflaw =>
    obtain ⟨i, hi⟩ := Catalog.exists_indexOf? htable
    simp only [hrev, hi, tableFlaw?_trim, tableFlaw?_eq_some_iff.2 hflaw, ne_eq, not_true_eq_false, if_false]
  | taken hrev htable hok hne htaken =>
    obtain ⟨i, hi⟩ := Catalog.exists_indexOf? htable
    have htaken' : trim u.name ∈ d.tables.names := htaken
    simp only [hrev, hi, tableFlaw?_trim, tableFlaw?_eq_none_iff.2 hok, hne, htaken', ne_eq, not_true_eq_false,
      if_false, not_false_eq_true, and_self, if_true]

theorem check_of_accepts (h : d.Accepts table u) :
    ∃ i, d.tables.indexOf? table = some i ∧ d.check table u = .ok i := by
  obtain ⟨i, hi⟩ := Catalog.exists_indexOf? h.known
  have hfree : ¬ (trim u.name ≠ table ∧ trim u.name ∈ d.tables.names) := fun hc =>
    h.free.elim hc.1 fun hout => hout hc.2
  refine ⟨i, hi, ?_⟩
  simp only [check, h.current, hi, tableFlaw?_trim, tableFlaw?_eq_none_iff.2 h.acceptable, if_neg hfree, ne_eq,
    not_true_eq_false, if_false]

/-! ## Rewriting that is left out -/

theorem mapForeignKeys_eq_self {t : Table} {f : ForeignKey → ForeignKey} (h : ∀ k, f k = k) :
    t.mapForeignKeys f = t := by
  rw [Table.mapForeignKeys, List.map_congr_left fun k _ => h k, List.map_id']

/-- A table that keeps its name leaves nothing to follow. -/
theorem retarget_eq_self (d : Document) (table : String) : d.retarget table table = d := by
  have hname : ∀ t, SchemaAtlas.retarget table table t = t := by
    intro t
    unfold SchemaAtlas.retarget
    split
    · next h => exact h.symm
    · rfl
  have hrel : ∀ r : Relationship, r.retarget table table = r := fun r => by
    simp only [Relationship.retarget, hname]
  have hkey : ∀ k : ForeignKey, k.retarget table table = k := fun k => by
    simp only [ForeignKey.retarget, hname]
  rw [retarget, Catalog.map_eq_self fun _ t => mapForeignKeys_eq_self hkey,
    List.map_congr_left fun r _ => hrel r, List.map_id']

/-- No renames leave nothing to follow either. -/
theorem refield_nil (d : Document) (table : String) : d.refield table [] = d := by
  have hname : ∀ f, renamed [] f = f := fun _ => rfl
  have hrel : ∀ r : Relationship, r.refield table [] = r := fun r => by
    simp only [Relationship.refield, hname, ite_self]
  have hkey : ∀ owner, ∀ k : ForeignKey, k.refield table [] owner = k := fun owner k => by
    simp only [ForeignKey.refield, hname, ite_self]
  rw [refield, Catalog.map_eq_self fun owner t => mapForeignKeys_eq_self (hkey owner),
    List.map_congr_left fun r _ => hrel r, List.map_id']

theorem changed_eq {old : Table} {i : Nat} (hi : d.tables.indexOf? table = some i)
    (free : trim u.name = table ∨ trim u.name ∉ d.tables.names) :
    d.changed table u old i = { d.editedTo table u old free with revision := d.revision + 1 } := by
  have hretarget : ∀ x : Document, (if trim u.name ≠ table then x.retarget table (trim u.name) else x) =
      x.retarget table (trim u.name) := by
    intro x
    split
    · rfl
    · next h => rw [not_not.1 h, retarget_eq_self]
  have hrefield : ∀ (x : Document) (rs : List FieldRename),
      (if rs ≠ [] then x.refield (trim u.name) rs else x) = x.refield (trim u.name) rs := by
    intro x rs
    split
    · rfl
    · next h => rw [not_not.1 h, refield_nil]
  simp only [changed, hretarget, hrefield, Catalog.insertAt_without hi _ free]
  rfl

/-! ## All steps -/

theorem updateInPlace_of_refuses {e : UpdateError} (h : d.Refuses table u e) (gone lost : UpdateError) :
    updateInPlace gone lost d table u = (.error e, d) := by
  rw [updateInPlace, check_of_refuses h]

/-- The changes find the table both times. -/
theorem updateInPlace_of_accepts (h : d.Accepts table u) (gone lost : UpdateError) :
    ∃ e t, d.edited table u = .ok e ∧ e.table? (trim u.name) = some t ∧ t.fields = newFields u ∧
      updateInPlace gone lost d table u = (.ok t, { e with revision := d.revision + 1 }) := by
  obtain ⟨i, hi, hcheck⟩ := check_of_accepts h
  obtain ⟨old, hold, hedited⟩ := edited_of_accepts h
  obtain ⟨t, ht, hfields⟩ := table?_editedTo h.free hold
  refine ⟨_, t, hedited, ht, hfields, ?_⟩
  have hold' : d.tables.get? table = some old := hold
  have ht' : (d.changed table u old i).tables.get? (trim u.name) = some t := by
    rw [changed_eq hi h.free]
    exact ht
  rw [updateInPlace, hcheck]
  simp only [hold', ht']
  rw [changed_eq hi h.free]

end Document

open Document in
/-- Before the last revision, an update is refused for the first of four reasons that there is:
it was made at another revision, there is no such table, the definition has a fault, or the name
is taken. Otherwise it is accepted, and the table is found under its new name with the new
fields. Carried out step by step, whatever a step would report that finds no table, the update
gives the same error and leaves the stored document, or the same document and its table. -/
theorem applyUpdate_iff {d : Document} (hd : d.revision ≠ lastRevision) (table : String) (u : TableUpdate) :
    (∀ e, d.applyUpdate table u = .refused e ↔ d.Refuses table u e) ∧
    ((∃ flaw, d.applyUpdate table u = .refused (.invalid flaw)) ↔
      u.baseRevision = d.revision ∧ table ∈ d.tableNames ∧ ¬ Acceptable u.name u.fields) ∧
    ((∃ d', d.applyUpdate table u = .accepted d') ↔ d.Accepts table u) ∧
    ∀ gone lost : UpdateError,
      (∀ e, d.applyUpdate table u = .refused e → updateInPlace gone lost d table u = (.error e, d)) ∧
      ∀ d', d.applyUpdate table u = .accepted d' →
        ∃ t, d'.table? (trim u.name) = some t ∧ t.fields = u.fields.map Field.trimmed ∧
          updateInPlace gone lost d table u = (.ok t, d') := by
  have hinvalid : (∃ flaw, d.applyUpdate table u = .refused (.invalid flaw)) ↔
      ∃ flaw, d.Refuses table u (.invalid flaw) := exists_congr fun _ => applyUpdate_refused_iff
  refine ⟨fun e => applyUpdate_refused_iff, hinvalid.trans refuses_invalid_iff, applyUpdate_accepted_iff hd, ?_⟩
  intro gone lost
  constructor
  · intro e he
    exact updateInPlace_of_refuses (applyUpdate_refused_iff.1 he) gone lost
  · intro d' hd'
    have haccepts := (applyUpdate_accepted_iff hd).1 ⟨d', hd'⟩
    obtain ⟨-, e, he, rfl⟩ := applyUpdate_accepted hd'
    obtain ⟨e', t, he', ht, hfields, hsteps⟩ := updateInPlace_of_accepts haccepts gone lost
    rw [he] at he'
    cases he'
    exact ⟨t, ht, hfields, hsteps⟩

open Document in
/-- An update that gives one name twice, but for blanks, and takes the name of another table is
refused for the field first, and without it for the table. Under a free name it is accepted. -/
theorem applyUpdate_iff_blanks :
    let d : Document := ⟨.ofList [("users", ⟨[⟨"id", "INT", true⟩], []⟩), ("orders", ⟨[], []⟩)], [], 3⟩
    let key : Field := ⟨" id", "INT", true⟩
    let twice : TableUpdate := ⟨" orders ", [key, ⟨"id ", "INT", false⟩], 3, []⟩
    let once : TableUpdate := ⟨" orders ", [key], 3, []⟩
    let free : TableUpdate := ⟨" people ", [key], 3, []⟩
    let d' : Document := ⟨.ofList [("people", ⟨[⟨"id", "INT", true⟩], []⟩), ("orders", ⟨[], []⟩)], [], 4⟩
    let gone : UpdateError := .unknownTable "users"
    let lost : UpdateError := .unknownTable "people"
    d.revision ≠ lastRevision ∧ d.Refuses "users" twice (.invalid (.duplicateField "id")) ∧
      d.Refuses "users" once (.nameTaken "orders") ∧
      updateInPlace gone lost d "users" once = (.error (.nameTaken "orders"), d) ∧
      ∃ t, d'.table? "people" = some t ∧ updateInPlace gone lost d "users" free = (.ok t, d') := by
  intro d key twice once free d' gone lost
  have hd : d.revision ≠ lastRevision := by decide
  have htwice : d.applyUpdate "users" twice = .refused (.invalid (.duplicateField "id")) := by decide +kernel
  have honce : d.applyUpdate "users" once = .refused (.nameTaken "orders") := by decide +kernel
  have hfree : d.applyUpdate "users" free = .accepted d' := by decide +kernel
  have hname : trim free.name = "people" := by decide +kernel
  obtain ⟨hrefused, -, -, -⟩ := applyUpdate_iff hd "users" twice
  obtain ⟨htaken, -, -, hkept⟩ := applyUpdate_iff hd "users" once
  obtain ⟨-, -, -, hsteps⟩ := applyUpdate_iff hd "users" free
  obtain ⟨t, ht, -, hstored⟩ := (hsteps gone lost).2 d' hfree
  exact ⟨hd, (hrefused _).1 htwice, (htaken _).1 honce, (hkept gone lost).1 _ honce, t, hname ▸ ht, hstored⟩

end SchemaAtlas
