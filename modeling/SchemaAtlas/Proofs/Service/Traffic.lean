import Mathlib.Data.List.Perm.Basic
import SchemaAtlas.Proofs.Service.Handling
/-!
# No update is lost

The service among any number of clients. Requests and responses travel separately: a
client may send anything at any time, the service takes up the requests on their way in
any order, one at a time, and the responses arrive in any order. `Consistent` is kept by
every event: of all documents ever answered, none is newer than the stored one, and one of
the same revision is the stored one. An update that is accepted was made at the revision of
the stored document, so whoever made it knew this document (`no_lost_update`).
-/

namespace SchemaAtlas

open Web Service

/-- A request on its way, and who sent it. -/
structure Call where
  client : Nat
  request : Request
deriving DecidableEq

/-- A response, and who gets it. -/
structure Reply where
  client : Nat
  response : Response
deriving DecidableEq

/-- The service, what is on its way to it and from it, and what has arrived. -/
structure Traffic where
  service : Service
  calls : List Call := []
  replies : List Reply := []
  received : List Reply := []

namespace Traffic

/-! ## Runs -/

inductive Event
  /-- A client sends a request. -/
  | send (c : Call)
  /-- The service handles one of the requests on their way. -/
  | serve (i : Nat) (a : Arrival)
  /-- One of the responses on their way arrives. -/
  | deliver (i : Nat)

/-- What follows from an event. One that is about nothing on its way does nothing. -/
def step (t : Traffic) : Event → Traffic
  | .send c => { t with calls := t.calls ++ [c] }
  | .serve i a =>
    match t.calls[i]? with
    | none => t
    | some c =>
      let answer := t.service.handle a c.request
      { t with service := answer.2, calls := t.calls.eraseIdx i
               replies := t.replies ++ (answer.1.map (Reply.mk c.client)).toList }
  | .deliver i =>
    match t.replies[i]? with
    | none => t
    | some r => { t with replies := t.replies.eraseIdx i, received := t.received ++ [r] }

/-- What follows from events, one after the other. -/
def run (t : Traffic) (es : List Event) : Traffic := es.foldl step t

/-- The response was given, and may have arrived. -/
def Given (t : Traffic) (r : Response) : Prop := ∃ c, ⟨c, r⟩ ∈ t.replies ++ t.received

/-- Whether a call asks to change something. -/
def isPut (c : Call) : Bool := c.request.method = .put

/-- How many requests of the kind `PUT` are sent. -/
def puts (es : List Event) : Nat :=
  es.countP fun
    | .send c => isPut c
    | _ => false

/-- The event is the handling of a request, which is answered by the response. -/
def Answers (t : Traffic) (e : Event) (request : Request) (response : Response) : Prop :=
  ∃ i a c, e = .serve i a ∧ t.calls[i]? = some c ∧ c.request = request ∧
    (t.service.handle a request).1 = some response

/-- The event saves a table: the update `u` of the table `name` is answered with 200. -/
def Saves (t : Traffic) (e : Event) (name : String) (u : TableUpdate) : Prop :=
  ∃ request response, t.Answers e request response ∧ task request = .ok (.putTable name u) ∧
    response.status = 200

/-! ## What an event keeps -/

/-- The store holds `d`, no answer is newer, and one of its revision is `d` itself. With
the updates still on their way the revision stays within `bound`. -/
structure Consistent (bound : Nat) (t : Traffic) (d : Document) : Prop where
  store : t.service.store = some d
  room : d.revision.toNat + t.calls.countP isPut ≤ bound
  current : ∀ r x, t.Given r → Carries r x →
    x.revision.toNat ≤ d.revision.toNat ∧ (x.revision = d.revision → x = d)

theorem countP_eraseIdx {α : Type} (p : α → Bool) {l : List α} {i : Nat} {a : α} (h : l[i]? = some a) :
    l.countP p = (l.eraseIdx i).countP p + if p a then 1 else 0 := by
  obtain ⟨hi, rfl⟩ := List.getElem?_eq_some_iff.1 h
  rw [← (List.getElem_cons_eraseIdx_perm hi).countP_eq p, List.countP_cons]

variable {t : Traffic} {d : Document} {bound : Nat}

theorem consistent_send (h : t.Consistent bound d) (c : Call) :
    (t.step (.send c)).Consistent (bound + if isPut c then 1 else 0) d := by
  refine ⟨h.store, ?_, h.current⟩
  have := h.room
  simp only [step, List.countP_append, List.countP_singleton]
  omega

theorem consistent_deliver (h : t.Consistent bound d) (i : Nat) :
    (t.step (.deliver i)).Consistent bound d := by
  simp only [step]
  split
  · exact h
  · next r hr =>
    refine ⟨h.store, h.room, fun r' x hg => h.current r' x ?_⟩
    -- What has just arrived was on its way before.
    obtain ⟨c, hc⟩ := hg
    refine ⟨c, ?_⟩
    simp only [List.mem_append, List.mem_singleton] at hc ⊢
    rcases hc with hc | hc | hc
    · exact .inl (List.mem_of_mem_eraseIdx hc)
    · exact .inr hc
    · exact .inl (hc ▸ List.mem_of_getElem? hr)

/-- What the handling of a request gives, while there is a next revision for each update on
its way: a saved table, or an answer that leaves the store and carries no other document.
Where the whole document is asked for, the answer carries it. -/
theorem serve_cases (h : t.Consistent bound d) (hb : bound < UInt64.size) {i : Nat} {c : Call}
    (hc : t.calls[i]? = some c) (a : Arrival) :
    (∃ name u next, task c.request = .ok (.putTable name u) ∧ d.applyUpdate name u = .accepted next ∧
      (t.service.handle a c.request).1 = some (jsonResponse 200 next.toJson) ∧
      (t.service.handle a c.request).2.store = some next) ∨
    ((t.service.handle a c.request).2.store = some d ∧
      (∀ name u r, task c.request = .ok (.putTable name u) →
        (t.service.handle a c.request).1 = some r → r.status ≠ 200) ∧
      (∀ r x, (t.service.handle a c.request).1 = some r → Carries r x → x = d) ∧
      ∀ r, task c.request = .ok .getSchema → (t.service.handle a c.request).1 = some r →
        r.status = 200 → Carries r d) := by
  rcases handle_cases h.store a c.request with
    hsave | ⟨name, u, ht, hlast, -⟩ | ⟨ht, hr, hstore⟩ | ⟨name, tab, ht, hr, hstore⟩ | ⟨r, hr, hne, hstore⟩
  · exact .inl hsave
  · -- The update is counted among those on their way, so this is not the last revision.
    have hcount := countP_eraseIdx isPut hc
    have hroom := h.room
    rw [if_pos (by simp [isPut, method_of_putTable ht])] at hcount
    have : d.revision.toNat = UInt64.size - 1 := by rw [hlast]; rfl
    omega
  · refine .inr ⟨hstore, fun name u r htp => ?_, fun r x hr' hx => ?_, fun r _ hr' _ => ?_⟩
    · rw [ht] at htp; cases htp
    · rw [hr] at hr'
      cases hr'
      exact carries_unique hx (carries_document d)
    · rw [hr] at hr'
      cases hr'
      exact carries_document d
  · refine .inr ⟨hstore, fun name u r htp => ?_, fun r x hr' hx => ?_, fun r htp => ?_⟩
    · rw [ht] at htp; cases htp
    · rw [hr] at hr'
      cases hr'
      exact absurd hx not_carries_table
    · rw [ht] at htp; cases htp
  · refine .inr ⟨hstore, fun name u r' _ hr' => ?_, fun r' x hr' hx => ?_, fun r' _ hr' hok => ?_⟩
    · rw [hr] at hr'; cases hr'; exact hne
    · rw [hr] at hr'; cases hr'; exact absurd hx.1 hne
    · rw [hr] at hr'; cases hr'; exact absurd hok hne

theorem given_serve {i : Nat} {c : Call} (hc : t.calls[i]? = some c) {a : Arrival} {r : Response}
    (h : (t.step (.serve i a)).Given r) : t.Given r ∨ (t.service.handle a c.request).1 = some r := by
  obtain ⟨client, hm⟩ := h
  simp only [step, hc, List.mem_append, Option.mem_toList, Option.map_eq_some_iff, Reply.mk.injEq] at hm
  rcases hm with (hm | ⟨r', hr', -, rfl⟩) | hm
  · exact .inl ⟨client, by simp [hm]⟩
  · exact .inr hr'
  · exact .inl ⟨client, by simp [hm]⟩

theorem consistent_serve (h : t.Consistent bound d) (hb : bound < UInt64.size) (i : Nat) (a : Arrival) :
    ∃ d', (t.step (.serve i a)).Consistent bound d' := by
  cases hc : t.calls[i]? with
  | none => exact ⟨d, by simpa [step, hc] using h⟩
  | some c =>
    have hcount := countP_eraseIdx isPut hc
    have hroom := h.room
    rcases serve_cases h hb hc a with ⟨name, u, next, ht, hu, hr, hstore⟩ | ⟨hstore, -, hcarry, -⟩
    · have hrev := Document.revision_of_accepted hu
      rw [if_pos (by simp [isPut, method_of_putTable ht])] at hcount
      refine ⟨next, by simpa [step, hc] using hstore, by simp only [step, hc]; omega, fun r x hg hx => ?_⟩
      rcases given_serve hc hg with hg | hg
      · -- What was answered before is older than the next revision.
        have hle := (h.current r x hg hx).1
        exact ⟨by omega, fun he => absurd (congrArg UInt64.toNat he) (by omega)⟩
      · rw [hr] at hg
        cases hg
        rw [carries_unique hx (carries_document next)]
        exact ⟨Nat.le_refl _, fun _ => rfl⟩
    · refine ⟨d, by simpa [step, hc] using hstore, by simp only [step, hc]; omega, fun r x hg hx => ?_⟩
      rcases given_serve hc hg with hg | hg
      · exact h.current r x hg hx
      · rw [hcarry r x hg hx]
        exact ⟨Nat.le_refl _, fun _ => rfl⟩

theorem consistent_step (h : t.Consistent bound d) (e : Event) (hb : bound + puts [e] < UInt64.size) :
    ∃ d', (t.step e).Consistent (bound + puts [e]) d' := by
  cases e with
  | send c => exact ⟨d, by simpa [puts, List.countP_singleton] using consistent_send h c⟩
  | serve i a => exact consistent_serve h hb i a
  | deliver i => exact ⟨d, consistent_deliver h i⟩

theorem puts_append (es es' : List Event) : puts (es ++ es') = puts es + puts es' := by
  simp [puts, List.countP_append]

theorem consistent_run (es : List Event) (h : t.Consistent bound d) (hb : bound + puts es < UInt64.size) :
    ∃ d', (t.run es).Consistent (bound + puts es) d' := by
  induction es generalizing t d bound with
  | nil => exact ⟨d, h⟩
  | cons e es ih =>
    have hputs : puts (e :: es) = puts [e] + puts es := puts_append [e] es
    obtain ⟨d', h'⟩ := consistent_step h e (by omega)
    rw [hputs, ← Nat.add_assoc]
    exact ih h' (by omega)

theorem consistent_start {s : Service} {d : Document} (hs : s.store = some d) :
    Consistent d.revision.toNat { service := s } d :=
  ⟨hs, by simp, fun r x hg => by obtain ⟨c, hc⟩ := hg; simp at hc⟩

/-! ## Updates -/

theorem service_step {i : Nat} {c : Call} (hc : t.calls[i]? = some c) (a : Arrival) :
    (t.step (.serve i a)).service = (t.service.handle a c.request).2 := by
  simp [step, hc]

/-- A saved table was accepted by the stored document, and what came of it is stored. -/
theorem store_of_saves (h : t.Consistent bound d) (hb : bound < UInt64.size) {e : Event} {name : String}
    {u : TableUpdate} (hs : t.Saves e name u) :
    ∃ next, d.applyUpdate name u = .accepted next ∧ (t.step e).service.store = some next := by
  obtain ⟨_, response, ⟨i, a, c, rfl, hc, rfl, hr⟩, ht, hok⟩ := hs
  rcases serve_cases h hb hc a with ⟨name', u', next, ht', hu, -, hstore⟩ | ⟨-, hbad, -⟩
  · rw [ht] at ht'
    cases ht'
    exact ⟨next, hu, service_step hc a ▸ hstore⟩
  · exact absurd hok (hbad name u response ht hr)

/-- Where no table is saved the store stays. -/
theorem store_of_not_saves (h : t.Consistent bound d) (hb : bound < UInt64.size) {e : Event}
    (hno : ∀ name u, ¬ t.Saves e name u) : (t.step e).service.store = some d := by
  cases e with
  | send c => exact h.store
  | deliver i => exact (consistent_deliver h i).store
  | serve i a =>
    cases hc : t.calls[i]? with
    | none => simpa [step, hc] using h.store
    | some c =>
      rcases serve_cases h hb hc a with ⟨name, u, next, ht, -, hr, -⟩ | ⟨hstore, -⟩
      · exact absurd ⟨c.request, _, ⟨i, a, c, rfl, hc, rfl, hr⟩, ht, rfl⟩ (hno name u)
      · exact service_step hc a ▸ hstore

/-- A saved table and the whole document are answered with what is stored. -/
theorem carries_of_answers (h : t.Consistent bound d) (hb : bound < UInt64.size) {e : Event}
    {request : Request} {response : Response} (ha : t.Answers e request response)
    (hok : response.status = 200)
    (htask : task request = .ok .getSchema ∨ ∃ name u, task request = .ok (.putTable name u)) :
    ∃ x, (t.step e).service.store = some x ∧ Carries response x := by
  obtain ⟨i, a, c, rfl, hc, rfl, hr⟩ := ha
  rw [service_step hc a]
  rcases serve_cases h hb hc a with ⟨-, -, next, -, -, hr', hstore⟩ | ⟨hstore, hbad, -, hwhole⟩
  · rw [hr] at hr'
    cases hr'
    exact ⟨next, hstore, carries_document next⟩
  · refine ⟨d, hstore, ?_⟩
    rcases htask with ht | ⟨name, u, ht⟩
    · exact hwhole response ht hr hok
    · exact absurd hok (hbad name u response ht hr)

/-- In whatever order requests are handled and responses arrive, as long as there are
enough revisions: a table is saved only where the stored document is the one that every
earlier response with the update's base revision carried; then the revision grows by one,
and anything else leaves the store as it is. A saved table and the whole document are
answered with what is stored. -/
theorem no_lost_update {s : Service} {start : Document} (hs : s.store = some start)
    (before : List Event) (e : Event) (after : List Event)
    (hroom : start.revision.toNat + puts (before ++ e :: after) < UInt64.size) :
    let t := run { service := s } before
    ∃ d, t.service.store = some d ∧
      (∀ name u, t.Saves e name u →
        (∀ r x, t.Given r → Carries r x → x.revision = u.baseRevision → x = d) ∧
        ∃ next, d.applyUpdate name u = .accepted next ∧ (t.step e).service.store = some next ∧
          next.revision.toNat = d.revision.toNat + 1) ∧
      ((∀ name u, ¬ t.Saves e name u) → (t.step e).service.store = some d) ∧
      ∀ request response, t.Answers e request response → response.status = 200 →
        task request = .ok .getSchema ∨ (∃ name u, task request = .ok (.putTable name u)) →
        ∃ x, (t.step e).service.store = some x ∧ Carries response x := by
  intro t
  rw [puts_append] at hroom
  have hb : start.revision.toNat + puts before < UInt64.size := by omega
  obtain ⟨d, h⟩ := consistent_run before (consistent_start hs) hb
  refine ⟨d, h.store, fun name u hsave => ?_, store_of_not_saves h hb, fun _ _ => carries_of_answers h hb⟩
  obtain ⟨next, hu, hstore⟩ := store_of_saves h hb hsave
  refine ⟨fun r x hg hx hrev => ?_, next, hu, hstore, Document.revision_of_accepted hu⟩
  -- The update was made at the stored revision, and only the stored document has it.
  exact (h.current r x hg hx).2 (hrev.trans (Document.baseRevision_of_accepted hu))

/-- Two clients fetch the document, their responses cross, and one of them saves. -/
theorem no_lost_update_crossing :
    let u : TableUpdate := ⟨" people ", [⟨"id", "INT", true⟩], 3, []⟩
    let start : Document := ⟨.ofList [("users", ⟨[⟨"key", "INT", true⟩], []⟩)], [], 3⟩
    let fetch : Request := { method := .get, target := "/api/schema" }
    let save : Request :=
      { method := .put, target := "/api/table/users", contentType := some "application/json"
        body := u.toJson.compact }
    let noon : Arrival := ⟨"12:00", "7", "unknown"⟩
    let before : List Event :=
      [.send ⟨1, fetch⟩, .send ⟨2, fetch⟩, .serve 1 noon, .serve 0 noon, .send ⟨2, save⟩, .deliver 1]
    let t := run { service := { store := some start } } before
    t.Given (jsonResponse 200 start.toJson) ∧ t.Saves (.serve 0 noon) "users" u ∧
      ∃ d, t.service.store = some d ∧
        ∀ r x, t.Given r → Carries r x → x.revision = u.baseRevision → x = d := by
  intro u start fetch save noon before t
  let next : Document := ⟨.ofList [("people", ⟨[⟨"id", "INT", true⟩], []⟩)], [], 4⟩
  have htask : task save = .ok (.putTable "users" u) := by
    have hroute : route? save.target = some (.table "users") := by decide +kernel
    have hmedia : MediaType.isJson "application/json" = true := by decide +kernel
    have hbody : bodyUpdate? save = some u := by
      simp only [bodyUpdate?, save, Option.map_some, hmedia, Option.getD_some, if_true, TableUpdate.parse_compact]
      rfl
    simp only [task, show save.method = .put from rfl, hroute, hbody]
  have hstore : t.service.store = some start := by decide +kernel
  have hkey : t.service.authorizes save = true := by decide +kernel
  have hupdate : start.applyUpdate "users" u = .accepted next := by decide +kernel
  have hanswer : (t.service.handle noon save).1 = some (jsonResponse 200 next.toJson) := by
    simp only [handle, htask, hkey, hstore, perform, putTable, hupdate, Bool.not_true, Bool.false_eq_true,
      if_false]
  have hsave : t.Saves (.serve 0 noon) "users" u :=
    ⟨save, _, ⟨0, noon, ⟨2, save⟩, rfl, by decide +kernel, rfl, hanswer⟩, htask, rfl⟩
  obtain ⟨d, hd, hknown, -⟩ := no_lost_update (s := { store := some start }) rfl before (.serve 0 noon) []
    (by decide)
  exact ⟨⟨1, by decide +kernel⟩, hsave, d, hd, (hknown "users" u hsave).1⟩

end Traffic
end SchemaAtlas
