import SchemaAtlas.Service
import SchemaAtlas.Proofs.Document.Reading
import SchemaAtlas.Proofs.Document.Update
/-!
# What one request does to the store

`handle_cases` sums up the handling of a request while the store is in order: it saves a
table, meets the last revision, answers with the document or with one table, or is
refused. Only the first two touch the store, and only a saved table and the whole document
are answered with a document (`Carries`).
-/

namespace SchemaAtlas.Service

open Web Json

/-! ## Responses that carry a document -/

/-- A response from which a client reads the document. -/
def Carries (r : Response) (d : Document) : Prop := r.status = 200 ∧ Document.parse r.body = .ok d

theorem carries_document (d : Document) : Carries (jsonResponse 200 d.toJson) d :=
  ⟨rfl, d.parse_compact⟩

theorem carries_unique {r : Response} {d e : Document} (hd : Carries r d) (he : Carries r e) : d = e := by
  have h := hd.2
  rw [he.2] at h
  cases h
  rfl

theorem skipFault?_items {α : Type} {g : α → Value} (h : ∀ a, (g a).tree.skipFault? = none) (as : List α) :
    (itemsTree (as.map g)).skipFault? = none := by
  induction as with
  | nil => rfl
  | cons a as ih => simp [itemsTree, Items.skipFault?, h, ih]

theorem exact_tableJson (name : String) (t : Table) : (tableJson name t).Exact :=
  ⟨trivial, exactItems_map Field.exact_toJson t.fields,
    exactItems_map ForeignKey.exact_toJson t.foreignKeys, trivial⟩

/-- A table is no document: it has no tables. -/
theorem decode_tableJson (name : String) (t : Table) :
    Document.record.decode (tableJson name t).tree = .error (.data (.missingField "tables")) := by
  have hfields : (itemsTree (t.fields.map Field.toJson)).skipFault? = none :=
    skipFault?_items (fun _ => rfl) _
  have hkeys : (itemsTree (t.foreignKeys.map ForeignKey.toJson)).skipFault? = none :=
    skipFault?_items (fun _ => rfl) _
  simp [tableJson, Value.tree, membersTree, Record.decode, Record.ofMembers, Word.read, Document.record,
    slot, Tree.skipFault?, Word.skipFault?, hfields, hkeys, Record.missing?, bind, Except.bind]

theorem not_carries_table {name : String} {t : Table} {d : Document} :
    ¬ Carries (jsonResponse 200 (tableJson name t)) d := by
  rintro ⟨-, h⟩
  rw [Document.parse, jsonResponse, parse_compact (exact_tableJson name t), decode_tableJson] at h
  cases h

/-! ## Handling -/

theorem refusalStatus_ne (e : UpdateError) : refusalStatus e ≠ 200 := by
  cases e <;> simp [refusalStatus]

theorem method_of_putTable {r : Request} {name : String} {u : TableUpdate}
    (h : task r = .ok (.putTable name u)) : r.method = .put := by
  unfold task at h
  split at h
  · cases h
  · cases h
  · next hm _ => exact hm
  · cases h

theorem status_of_task_error {r : Request} {response : Response} (h : task r = .error response) :
    response.status ≠ 200 := by
  unfold task at h
  split at h
  · cases h
  · cases h
  · split at h <;> cases h
    simp [badBody]
  · cases h
    simp [noRoute]

/-- What becomes of a request while the store holds `d`. -/
theorem handle_cases {s : Service} {d : Document} (hs : s.store = some d) (a : Arrival) (r : Request) :
    -- A saved table: the next document is stored and answered.
    (∃ name u next, task r = .ok (.putTable name u) ∧ d.applyUpdate name u = .accepted next ∧
      (s.handle a r).1 = some (jsonResponse 200 next.toJson) ∧ (s.handle a r).2.store = some next) ∨
    -- An update at the last revision: no answer, and the store is spoilt.
    (∃ name u, task r = .ok (.putTable name u) ∧ d.revision = Document.lastRevision ∧
      (s.handle a r).1 = none ∧ (s.handle a r).2.store = none) ∨
    -- The whole document.
    (task r = .ok .getSchema ∧ (s.handle a r).1 = some (jsonResponse 200 d.toJson) ∧
      (s.handle a r).2.store = some d) ∨
    -- One table.
    (∃ name t, task r = .ok (.getTable name) ∧
      (s.handle a r).1 = some (jsonResponse 200 (tableJson name t)) ∧ (s.handle a r).2.store = some d) ∨
    -- A refusal.
    (∃ response, (s.handle a r).1 = some response ∧ response.status ≠ 200 ∧
      (s.handle a r).2.store = some d) := by
  unfold handle
  cases ht : task r with
  | error response => exact .inr (.inr (.inr (.inr ⟨response, rfl, status_of_task_error ht, hs⟩)))
  | ok t =>
    by_cases hk : s.authorizes r = true
    · simp only [hk, hs, Bool.not_true, Bool.false_eq_true, if_false]
      cases t with
      | getSchema => exact .inr (.inr (.inl ⟨rfl, rfl, hs⟩))
      | getTable name =>
        simp only [perform, getTable]
        cases d.table? name with
        | some t => exact .inr (.inr (.inr (.inl ⟨name, t, rfl, rfl, hs⟩)))
        | none => exact .inr (.inr (.inr (.inr ⟨_, rfl, by simp [errorResponse, jsonResponse], hs⟩)))
      | putTable name u =>
        simp only [perform, putTable]
        cases hu : d.applyUpdate name u with
        | accepted next => exact .inl ⟨name, u, next, rfl, hu, rfl, rfl⟩
        | refused e => exact .inr (.inr (.inr (.inr ⟨_, rfl, refusalStatus_ne e, hs⟩)))
        | exhausted e =>
          exact .inr (.inl ⟨name, u, rfl, Document.applyUpdate_exhausted hu, rfl, rfl⟩)
    · simp only [hk]
      exact .inr (.inr (.inr (.inr ⟨unauthorized, rfl, by simp [unauthorized], hs⟩)))

end SchemaAtlas.Service
