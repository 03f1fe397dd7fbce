import SchemaAtlas.Proofs.Service.Survival
import SchemaAtlas.Proofs.Window.Effect
/-!
# What a call brings

A call of the window comes to a request, the service answers it, and the window reads the
answer. If a document is read, it is the one that the service holds afterwards: after a fetch
the same as before, after a save the next one (`stored_of_answer`).
-/

namespace SchemaAtlas

open Web Service

/-! ## What an answer says about the store -/

namespace Service

variable {s : Service} {d x : Document} {a : Arrival} {r : Request} {response : Response}

theorem isSuccess_of_task_error (h : task r = .error response) : response.isSuccess = false := by
  unfold task at h
  split at h
  · cases h
  · cases h
  · split at h <;> cases h
    rfl
  · cases h
    rfl

/-- Of all successes the service knows only 200. -/
theorem status_of_isSuccess (h : (s.handle a r).1 = some response) (hok : response.isSuccess = true) :
    response.status = 200 := by
  unfold handle at h
  split at h
  · next ht =>
    cases h
    rw [isSuccess_of_task_error ht] at hok
    cases hok
  · next t ht =>
    split at h
    · cases h
      cases hok
    · split at h
      · cases h
        cases hok
      · cases t with
        | getSchema =>
          cases h
          rfl
        | getTable name =>
          simp only [perform, getTable] at h
          split at h <;> cases h
          · rfl
          · cases hok
        | putTable name u =>
          simp only [perform, putTable] at h
          split at h <;> cases h
          · rfl
          · next e _ =>
            cases e <;> cases hok

/-- A document that is read from an answer is the stored one: after a save the next, else
the one that was stored already. -/
theorem stored_of_read (hs : s.store = some d) (h : (s.handle a r).1 = some response)
    (hok : response.isSuccess = true) (hx : Document.parse response.body = .ok x) :
    (s.handle a r).2.store = some x ∧
      (r.method = .put → x.revision.toNat = d.revision.toNat + 1) ∧ (r.method = .get → x = d) := by
  have hcarries : Carries response x := ⟨status_of_isSuccess h hok, hx⟩
  rcases handle_cases hs a r with
    ⟨_, _, next, ht, hu, hr, hstore⟩ | ⟨_, _, -, -, hr, -⟩ | ⟨ht, hr, hstore⟩ | ⟨_, _, -, hr, -⟩ | ⟨_, hr, hne, -⟩
  · cases hr.symm.trans h
    cases carries_unique hcarries (carries_document next)
    have hmethod := method_of_putTable ht
    refine ⟨hstore, fun _ => Document.revision_of_accepted hu, fun hget => ?_⟩
    cases hmethod.symm.trans hget
  · cases hr.symm.trans h
  · cases hr.symm.trans h
    cases carries_unique hcarries (carries_document d)
    exact ⟨hstore, fun hput => absurd hput (method_of_get ht (by simp)), fun _ => rfl⟩
  · cases hr.symm.trans h
    exact absurd hcarries not_carries_table
  · cases hr.symm.trans h
    exact absurd hcarries.1 hne

end Service

/-! ## Answers at the window -/

namespace Window

/-- The document that an event brings. -/
def Event.document? (e : Event) : Option Document :=
  (e.fetchAnswer?.or e.saveAnswer?).bind (·.2.toOption)

/-- The number of the save that an event answers. -/
def Event.saveNumber? (e : Event) : Option Nat := e.saveAnswer?.map Prod.fst

/-- Whether an event answers a save. -/
def Event.isSave (e : Event) : Bool := e.saveNumber?.isSome

theorem Event.answer_cases {e : Event} {x : Document} (h : e.document? = some x) :
    (∃ number, e.fetchAnswer? = some (number, .ok x) ∧ e.saveAnswer? = none) ∨
      ∃ number, e.fetchAnswer? = none ∧ e.saveAnswer? = some (number, .ok x) := by
  cases e with
  | fetched number r =>
    cases r with
    | error e => cases h
    | ok y =>
      cases h
      exact .inl ⟨number, rfl, rfl⟩
  | saved number r =>
    cases r with
    | error e => cases h
    | ok y =>
      cases h
      exact .inr ⟨number, rfl, rfl⟩
  | _ => cases h

theorem ok_of_fetched {number : Nat} {r : Except FetchError Document} {x : Document}
    (h : (Event.fetched number r).document? = some x) : r = .ok x := by
  cases r <;> cases h
  rfl

theorem ok_of_saved {number : Nat} {r : Except SaveError Document} {x : Document}
    (h : (Event.saved number r).document? = some x) : r = .ok x := by
  cases r <;> cases h
  rfl

end Window

/-! ## Calls -/

/-- Whether a network sends a request at all. -/
def Web.isSent (a : Address) (r : Request) : Bool :=
  !a.hostText.isEmpty && (r.key.map isHeaderText).getD true && isSendable a

theorem Web.send_ok {n : Network} {a : Address} {r : Request} {answer : Response}
    (h : n.send a r = .ok answer) : isSent a r = true ∧ n a r = some answer := by
  unfold Network.send at h
  unfold isSent
  split at h
  · cases h
  · split at h
    · cases h
    · split at h
      · cases h
      · split at h
        · cases h
          simp_all
        · cases h

namespace Dialogue

/-- A call of the window. -/
inductive Call
  | fetch (c : Window.FetchCall)
  | save (c : Window.SaveCall)
deriving DecidableEq, Repr

namespace Call

/-- The request that a call comes to, and where it is sent. -/
def request? : Call → Option (Address × Request)
  | .fetch c => do
    let client ← (Client.new c.endpoint c.key).toOption
    let a ← client.schemaAddress.toOption
    return (a, client.fetchRequest a)
  | .save c => do
    let client ← (Client.new c.endpoint c.key).toOption
    let a ← (client.tableAddress c.table).toOption
    return (a, client.saveRequest a c.update)

/-- The request that the service gets from a call. -/
def sent? (c : Call) : Option Request :=
  (c.request?.filter fun q => isSent q.1 q.2).map Prod.snd

/-- The answer to a call, as it arrives at the window. -/
def answer (n : Network) : Call → Window.Event
  | .fetch c => .fetched c.number (fetchFrom n c.endpoint c.key)
  | .save c => .saved c.number (saveTo n c.endpoint c.key c.table c.update)

/-- The number of the save that a call is. -/
def saveNumber? : Call → Option Nat
  | .fetch _ => none
  | .save c => some c.number

end Call

/-! ## What is read -/

theorem ok_of_mapError {ε ε' α : Type} {x : Except ε α} {f : ε → ε'} {a : α} (h : x.mapError f = .ok a) :
    x = .ok a := by
  cases x with
  | error e => cases h
  | ok b =>
    cases h
    rfl

theorem readFetch_ok {response : Response} {x : Document} (h : Client.readFetch response = .ok x) :
    response.isSuccess = true ∧ Document.parse response.body = .ok x := by
  unfold Client.readFetch at h
  split at h
  · next hok => exact ⟨hok, ok_of_mapError (ok_of_mapError h)⟩
  · cases h

theorem readSave_ok {response : Response} {x : Document} (h : Client.readSave response = .ok x) :
    response.isSuccess = true ∧ Document.parse response.body = .ok x := by
  unfold Client.readSave at h
  split at h
  · next hok => exact ⟨hok, ok_of_mapError (ok_of_mapError h)⟩
  · split at h
    · cases h
    · split at h <;> cases h

theorem sent?_of_request? {c : Call} {a : Address} {r : Request} (h : c.request? = some (a, r))
    (hsent : isSent a r = true) : c.sent? = some r := by
  rw [Call.sent?, h, Option.filter_some, if_pos hsent]
  rfl

/-- A document that is fetched was read from the service's response to a `GET`. -/
theorem fetchFrom_ok {n : Network} {c : Window.FetchCall} {x : Document}
    (h : fetchFrom n c.endpoint c.key = .ok x) :
    ∃ a r response, (Call.fetch c).sent? = some r ∧ r.method = .get ∧ n a r = some response ∧
      response.isSuccess = true ∧ Document.parse response.body = .ok x := by
  obtain ⟨client, hclient, h⟩ := ok_of_bind h
  obtain ⟨a, ha, h⟩ := ok_of_bind h
  obtain ⟨response, hresponse, h⟩ := ok_of_bind h
  obtain ⟨hsent, hn⟩ := send_ok (ok_of_mapError hresponse)
  refine ⟨a, client.fetchRequest a, response, sent?_of_request? ?_ hsent, rfl, hn, readFetch_ok h⟩
  simp [Call.request?, ok_of_mapError hclient, ok_of_mapError ha, Except.toOption]

/-- A document that comes back from a save was read from the service's response to a `PUT`. -/
theorem saveTo_ok {n : Network} {c : Window.SaveCall} {x : Document}
    (h : saveTo n c.endpoint c.key c.table c.update = .ok x) :
    ∃ a r response, (Call.save c).sent? = some r ∧ r.method = .put ∧ n a r = some response ∧
      response.isSuccess = true ∧ Document.parse response.body = .ok x := by
  obtain ⟨client, hclient, h⟩ := ok_of_bind h
  obtain ⟨a, ha, h⟩ := ok_of_bind h
  obtain ⟨response, hresponse, h⟩ := ok_of_bind h
  obtain ⟨hsent, hn⟩ := send_ok (ok_of_mapError hresponse)
  refine ⟨a, client.saveRequest a c.update, response, sent?_of_request? ?_ hsent, rfl, hn, readSave_ok h⟩
  simp [Call.request?, ok_of_mapError hclient, ok_of_mapError ha, Except.toOption]

theorem saveNumber?_answer (n : Network) (c : Call) : (c.answer n).saveNumber? = c.saveNumber? := by
  cases c <;> rfl

/-- A document in an answer is the stored one: the next, if the call was a save, and else the
one before. -/
theorem stored_of_answer {s : Service} {d : Document} (hs : s.store = some d) {a : Arrival} {c : Call} {x : Document}
    (hx : (c.answer fun _ r => (s.handle a r).1).document? = some x) :
    ((c.sent?.map fun r => (s.handle a r).2).getD s).store = some x ∧
      (c.saveNumber? = none → x = d) ∧ (c.saveNumber? ≠ none → x.revision.toNat = d.revision.toNat + 1) := by
  cases c with
  | fetch c =>
    obtain ⟨_, r, response, hsent, hmethod, hresponse, hok, hread⟩ := fetchFrom_ok (Window.ok_of_fetched hx)
    obtain ⟨hstore, -, hget⟩ := stored_of_read hs hresponse hok hread
    rw [hsent]
    exact ⟨hstore, fun _ => hget hmethod, fun hno => absurd rfl hno⟩
  | save c =>
    obtain ⟨_, r, response, hsent, hmethod, hresponse, hok, hread⟩ := saveTo_ok (Window.ok_of_saved hx)
    obtain ⟨hstore, hput, -⟩ := stored_of_read hs hresponse hok hread
    rw [hsent]
    exact ⟨hstore, nofun, fun _ => hput hmethod⟩

end Dialogue

end SchemaAtlas
