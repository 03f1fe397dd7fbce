import SchemaAtlas.Client
import SchemaAtlas.Proofs.Service.Handling
/-!
# What a client makes of the service's answers

The service turns the outcome of an update into a status and a body, and the client turns
these into an outcome again. The two fit: `save_cases` says what a client reads when it saves
a table, and `read_answers` that this is what the update itself would have given, with the
store to match. What a client fetches is the stored document.
-/

namespace SchemaAtlas.Service

open Web Json

/-! ## The requests of a client -/

/-- The request saves a table: it is put to where the table is, and its body is the text of
the update, declared as JSON. -/
structure IsSave (r : Request) (table : String) (u : TableUpdate) : Prop where
  method : r.method = .put
  route : route? r.target = some (.table table)
  declared : r.contentType.map MediaType.isJson = some true
  body : r.body = u.toJson.compact

/-- The request asks for the whole document. -/
structure IsFetch (r : Request) : Prop where
  method : r.method = .get
  route : route? r.target = some .schema

theorem task_of_isSave {r : Request} {table : String} {u : TableUpdate} (h : IsSave r table u) :
    task r = .ok (.putTable table u) := by
  have hbody : bodyUpdate? r = some u := by
    simp only [bodyUpdate?, h.declared, Option.getD_some, if_true, h.body, TableUpdate.parse_compact]
    rfl
  simp only [task, h.method, h.route, hbody]

theorem task_of_isFetch {r : Request} (h : IsFetch r) : task r = .ok .getSchema := by
  simp only [task, h.method, h.route]

/-- What a client sends to where a table is saves the table. -/
theorem isSave_saveRequest {c : Client} {a : Address} {table : String}
    (h : route? (Address.pathText a.path) = some (.table table)) (u : TableUpdate) :
    IsSave (c.saveRequest a u) table u where
  method := rfl
  route := h
  declared := by
    have : MediaType.isJson "application/json" = true := by decide +kernel
    exact congrArg some this
  body := rfl

/-! ## The answers as a client reads them -/

theorem readSave_document (d : Document) : Client.readSave (jsonResponse 200 d.toJson) = .ok d := by
  have hread := Document.read_of_parse d.parse_compact
  simp only [Client.readSave, jsonResponse, Response.isSuccess, hread]
  rfl

theorem readFetch_document (d : Document) : Client.readFetch (jsonResponse 200 d.toJson) = .ok d := by
  have hread := Document.read_of_parse d.parse_compact
  simp only [Client.readFetch, jsonResponse, Response.isSuccess, hread]
  rfl

/-- The body of a refusal: an object with the reason in it. -/
def refusalText (e : UpdateError) : String := (Value.object [("error", .string e.message)]).compact

/-- What a client takes a refusal for. -/
def refusalRead : UpdateError → SaveError
  | .unknownTable _ => .notFound
  | .revisionConflict _ _ => .conflict
  | e => .rejected (refusalText e)

theorem readSave_refusal (e : UpdateError) :
    Client.readSave (errorResponse (refusalStatus e) e.message) = .error (refusalRead e) := by
  have hbody : (refusalText e).isEmpty = false := by
    simp [refusalText, Value.compact, Value.compactChars]
  rw [Client.readSave, show (errorResponse (refusalStatus e) e.message).body = refusalText e from rfl, hbody]
  cases e <;> rfl

/-! ## Saving and fetching -/

variable {s : Service} {d : Document}

theorem handle_of_task (hs : s.store = some d) (a : Arrival) {r : Request} {t : Task} (ht : task r = .ok t)
    (hk : s.authorizes r = true) : s.handle a r = s.perform a d t := by
  simp only [handle, ht, hk, hs, Bool.not_true, Bool.false_eq_true, if_false]

/-- A save is answered, and a client reads the accepted document, which is then stored, or
the reason of the refusal, which leaves the store. -/
theorem save_cases (hs : s.store = some d) (hd : d.revision ≠ Document.lastRevision) (a : Arrival)
    {r : Request} {table : String} {u : TableUpdate} (hr : IsSave r table u) (hk : s.authorizes r = true) :
    ∃ answer, (s.handle a r).1 = some answer ∧
      ((∃ next, d.applyUpdate table u = .accepted next ∧ Client.readSave answer = .ok next ∧
          (s.handle a r).2.store = some next) ∨
        ∃ e, d.applyUpdate table u = .refused e ∧ Client.readSave answer = .error (refusalRead e) ∧
          (s.handle a r).2.store = some d) := by
  rw [handle_of_task hs a (task_of_isSave hr) hk]
  simp only [perform, putTable]
  cases hu : d.applyUpdate table u with
  | accepted next => exact ⟨_, rfl, .inl ⟨next, rfl, readSave_document next, rfl⟩⟩
  | refused e => exact ⟨_, rfl, .inr ⟨e, rfl, readSave_refusal e, hs⟩⟩
  | exhausted e => exact absurd (Document.applyUpdate_exhausted hu) hd

/-- Before the last revision, saving a table over the service is updating the stored document:
the client gets the updated document exactly where the update is accepted, and it is stored;
it learns that the table is gone, that the revision is an old one, or the reason of any other
refusal, exactly where the update is refused so, and the store stays as it is. What it fetches
is the stored document. -/
theorem read_answers (hs : s.store = some d) (a : Arrival) :
    (∀ r table u, d.revision ≠ Document.lastRevision → IsSave r table u → s.authorizes r = true →
      ∃ answer, (s.handle a r).1 = some answer ∧
        (∀ next, Client.readSave answer = .ok next ↔ d.applyUpdate table u = .accepted next) ∧
        (∀ next, d.applyUpdate table u = .accepted next → (s.handle a r).2.store = some next) ∧
        (Client.readSave answer = .error .notFound ↔
          ∃ name, d.applyUpdate table u = .refused (.unknownTable name)) ∧
        (Client.readSave answer = .error .conflict ↔
          ∃ expected found, d.applyUpdate table u = .refused (.revisionConflict expected found)) ∧
        (∀ text, Client.readSave answer = .error (.rejected text) ↔
          ∃ e, d.applyUpdate table u = .refused e ∧ ((∃ name, e = .nameTaken name) ∨ ∃ flaw, e = .invalid flaw) ∧
            text = (Value.object [("error", .string e.message)]).compact) ∧
        ∀ e, d.applyUpdate table u = .refused e → (s.handle a r).2.store = some d) ∧
    ∀ r, IsFetch r → s.authorizes r = true →
      ∃ answer, (s.handle a r).1 = some answer ∧ Client.readFetch answer = .ok d ∧
        (s.handle a r).2.store = some d := by
  constructor
  · intro r table u hd hr hk
    obtain ⟨answer, hanswer, hcase⟩ := save_cases hs hd a hr hk
    refine ⟨answer, hanswer, ?_⟩
    rcases hcase with ⟨next, hu, hread, hstore⟩ | ⟨e, hu, hread, hstore⟩
    · simp [hu, hread, hstore]
    · cases e <;> simp [hu, hread, hstore, refusalRead, refusalText, eq_comm]
  · intro r hr hk
    rw [handle_of_task hs a (task_of_isFetch hr) hk]
    exact ⟨_, rfl, readFetch_document d, hs⟩

/-- A client saves a table whose name has a blank, is refused a name that is taken, and
fetches. -/
theorem read_answers_items :
    let d : Document := ⟨.ofList [("order items", ⟨[⟨"key", "INT", true⟩], []⟩), ("users", ⟨[], []⟩)], [], 3⟩
    let next : Document := ⟨.ofList [("items", ⟨[⟨"id", "INT", true⟩], []⟩), ("users", ⟨[], []⟩)], [], 4⟩
    let s : Service := { store := some d, key := some "s3cret" }
    let c : Client := ⟨⟨"http", some { host := .name "localhost" }, .segments [""]⟩, some "s3cret"⟩
    let place : Address := { c.base with path := .segments ["api", "table", "order%20items"] }
    let whole : Address := { c.base with path := .segments ["api", "schema"] }
    let u : TableUpdate := ⟨" items ", [⟨"id", "INT", true⟩], 3, [⟨"key", "id"⟩]⟩
    let v : TableUpdate := ⟨"users", [], 3, []⟩
    let noon : Arrival := ⟨"12:00", "7", "unknown"⟩
    d.revision ≠ Document.lastRevision ∧ (c.tableAddress "order items").toOption = some place ∧
      IsSave (c.saveRequest place u) "order items" u ∧ IsSave (c.saveRequest place v) "order items" v ∧
      IsFetch (c.fetchRequest whole) ∧
      (∃ answer, (s.handle noon (c.saveRequest place u)).1 = some answer ∧ Client.readSave answer = .ok next) ∧
      (∃ answer, (s.handle noon (c.saveRequest place v)).1 = some answer ∧
        Client.readSave answer = .error (.rejected "\x7b\"error\":\"a table named users already exists\"\x7d")) ∧
      ∃ answer, (s.handle noon (c.fetchRequest whole)).1 = some answer ∧ Client.readFetch answer = .ok d := by
  intro d next s c place whole u v noon
  have hd : d.revision ≠ Document.lastRevision := by decide
  have hplace : route? (Address.pathText place.path) = some (.table "order items") := by decide +kernel
  have hfetch : IsFetch (c.fetchRequest whole) := ⟨rfl, by decide +kernel⟩
  have hu := isSave_saveRequest (c := c) hplace u
  have hv := isSave_saveRequest (c := c) hplace v
  have haccepted : d.applyUpdate "order items" u = .accepted next := by decide +kernel
  have hrefused : d.applyUpdate "order items" v = .refused (.nameTaken "users") := by decide +kernel
  obtain ⟨hsave, hwhole⟩ := read_answers (s := s) (d := d) rfl noon
  refine ⟨hd, by decide +kernel, hu, hv, hfetch, ?_, ?_, ?_⟩
  · obtain ⟨answer, hanswer, hok, -⟩ := hsave _ _ u hd hu (by decide +kernel)
    exact ⟨answer, hanswer, (hok next).2 haccepted⟩
  · obtain ⟨answer, hanswer, -, -, -, -, hrejected, -⟩ := hsave _ _ v hd hv (by decide +kernel)
    refine ⟨answer, hanswer, (hrejected _).2 ⟨_, hrefused, .inl ⟨"users", rfl⟩, ?_⟩⟩
    decide +kernel
  · obtain ⟨answer, hanswer, hdoc, -⟩ := hwhole _ hfetch (by decide +kernel)
    exact ⟨answer, hanswer, hdoc⟩

end SchemaAtlas.Service
