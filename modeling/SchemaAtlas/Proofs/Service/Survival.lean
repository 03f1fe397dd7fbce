import Mathlib.Data.List.Induction
import SchemaAtlas.Proofs.Service.Saving
/-!
# How long the service lasts

A request that goes to one of the routes and carries the key is answered, a save that is
accepted stores a newer document, and nothing else touches the store: all of it with one
exception. An update that would be accepted at the last revision takes effect before the
counter fails, is not answered, and spoils the store for every later request
(`handle_exhausts`, `handle_spoilt`). `survives_iff` says so of whole runs: the service
survives one exactly if no such update is among its requests.
-/

namespace SchemaAtlas.Service

open Web Json

/-! ## Runs of requests -/

/-- The service after requests, one after the other. -/
def after (s : Service) (qs : List (Arrival × Request)) : Service :=
  qs.foldl (fun s q => (s.handle q.1 q.2).2) s

theorem after_singleton (s : Service) (q : Arrival × Request) : s.after [q] = (s.handle q.1 q.2).2 := rfl

theorem after_append (s : Service) (qs qs' : List (Arrival × Request)) :
    s.after (qs ++ qs') = (s.after qs).after qs' :=
  List.foldl_append

theorem after_snoc (s : Service) (qs : List (Arrival × Request)) (q : Arrival × Request) :
    s.after (qs ++ [q]) = ((s.after qs).handle q.1 q.2).2 := by
  rw [after_append, after_singleton]

/-- The request goes to one of the routes, with a readable update if it saves a table, and
carries the key. -/
def Admits (s : Service) (r : Request) : Prop := (∃ t, task r = .ok t) ∧ s.authorizes r = true

/-- The request is dealt with as it should be while the store holds `d`. -/
structure Serves (s : Service) (d : Document) (a : Arrival) (r : Request) (answer : Response) : Prop where
  answered : (s.handle a r).1 = some answer
  status : answer.status = 200 ∨ answer.status = 404 ∨ answer.status = 409 ∨ answer.status = 422
  /-- What a save stores is newer. -/
  saved : r.method = .put → answer.status = 200 →
    ∃ next, (s.handle a r).2.store = some next ∧ d.revision < next.revision
  /-- Without a save the store stays as it is. -/
  kept : ¬ (r.method = .put ∧ answer.status = 200) → (s.handle a r).2.store = some d

/-- The request brings an update that would be accepted, if there were a next revision. -/
def Exhausts (d : Document) (r : Request) : Prop :=
  d.revision = Document.lastRevision ∧
    ∃ name u edited, task r = .ok (.putTable name u) ∧ d.edited name u = .ok edited

/-! ## One request -/

variable {s : Service} {d : Document} {r : Request}

theorem key_handle (s : Service) (a : Arrival) (r : Request) : (s.handle a r).2.key = s.key := by
  unfold handle
  split
  · rfl
  · next t _ =>
    split
    · rfl
    · split
      · rfl
      · next d _ =>
        cases t with
        | getSchema => rfl
        | getTable name =>
          simp only [perform, getTable]
          split <;> rfl
        | putTable name u =>
          simp only [perform, putTable]
          split <;> rfl

theorem key_after (s : Service) (qs : List (Arrival × Request)) : (s.after qs).key = s.key := by
  induction qs using List.reverseRecOn with
  | nil => rfl
  | append_singleton qs q ih => rw [after_snoc, key_handle, ih]

/-- What is admitted once is admitted later. -/
theorem Admits.after (h : s.Admits r) (qs : List (Arrival × Request)) : (s.after qs).Admits r := by
  refine ⟨h.1, ?_⟩
  have hk := h.2
  unfold authorizes at hk ⊢
  rwa [key_after]

theorem method_of_get {t : Task} (h : task r = .ok t) (ht : ∀ name u, t ≠ .putTable name u) : r.method ≠ .put := by
  intro hm
  unfold task at h
  split at h
  · next hm' _ => rw [hm] at hm'; cases hm'
  · next hm' _ => rw [hm] at hm'; cases hm'
  · split at h
    · cases h; exact ht _ _ rfl
    · cases h
  · cases h

theorem status_refusal (e : UpdateError) :
    refusalStatus e = 404 ∨ refusalStatus e = 409 ∨ refusalStatus e = 422 := by
  cases e <;> simp [refusalStatus]

/-- An update at the last revision is not answered, and spoils the store. -/
theorem handle_exhausts (hs : s.store = some d) (hr : s.Admits r) (h : Exhausts d r) (a : Arrival) :
    s.handle a r = (none, { s with store := none }) := by
  obtain ⟨hlast, name, u, edited, ht, hedit⟩ := h
  have hu : d.applyUpdate name u = .exhausted edited := by
    simp only [Document.applyUpdate, hedit, if_pos hlast]
  rw [handle_of_task hs a ht hr.2]
  simp only [perform, putTable, hu]

/-- A spoilt store stays so, and every request that needs it fails. -/
theorem handle_spoilt (hs : s.store = none) (hr : s.Admits r) (a : Arrival) :
    s.handle a r = (some spoilt, s) := by
  obtain ⟨⟨t, ht⟩, hk⟩ := hr
  simp only [handle, ht, hk, hs, Bool.not_true, Bool.false_eq_true, if_false]

theorem serves_of_kept {a : Arrival} {answer : Response} {s' : Service} (h : s.handle a r = (some answer, s'))
    (hs' : s'.store = some d)
    (hstatus : answer.status = 200 ∨ answer.status = 404 ∨ answer.status = 409 ∨ answer.status = 422)
    (hno : ¬ (r.method = .put ∧ answer.status = 200)) : s.Serves d a r answer where
  answered := by rw [h]
  status := hstatus
  saved hput hok := absurd ⟨hput, hok⟩ hno
  kept _ := by rw [h]; exact hs'

/-- Any other request is dealt with. -/
theorem serves_of_not_exhausts (hs : s.store = some d) (hr : s.Admits r) (h : ¬ Exhausts d r) (a : Arrival) :
    ∃ answer, s.Serves d a r answer := by
  obtain ⟨⟨t, ht⟩, hk⟩ := hr
  have hhandle := handle_of_task hs a ht hk
  cases t with
  | getSchema =>
    have hget := method_of_get ht (by simp)
    exact ⟨_, serves_of_kept hhandle hs (.inl rfl) fun hp => hget hp.1⟩
  | getTable name =>
    have hget := method_of_get ht (by simp)
    simp only [perform, getTable] at hhandle
    cases htable : d.table? name with
    | some tab =>
      simp only [htable] at hhandle
      exact ⟨_, serves_of_kept hhandle hs (.inl rfl) fun hp => hget hp.1⟩
    | none =>
      simp only [htable] at hhandle
      exact ⟨_, serves_of_kept hhandle hs (.inr (.inl rfl)) fun hp => hget hp.1⟩
  | putTable name u =>
    simp only [perform, putTable] at hhandle
    cases hu : d.applyUpdate name u with
    | accepted next =>
      simp only [hu] at hhandle
      have hnewer : d.revision < next.revision := by
        rw [UInt64.lt_iff_toNat_lt, Document.revision_of_accepted hu]
        exact Nat.lt_succ_self _
      refine ⟨jsonResponse 200 next.toJson, by rw [hhandle], .inl rfl, fun _ _ => ⟨next, by rw [hhandle]; rfl, hnewer⟩,
        fun hno => absurd ⟨method_of_putTable ht, rfl⟩ hno⟩
    | refused e =>
      simp only [hu] at hhandle
      exact ⟨_, serves_of_kept hhandle hs (.inr (status_refusal e)) fun hp => refusalStatus_ne e hp.2⟩
    | exhausted edited =>
      exact absurd ⟨Document.applyUpdate_exhausted hu, name, u, edited, ht, Document.edited_of_exhausted hu⟩ h

theorem Serves.store {a : Arrival} {answer : Response} (h : s.Serves d a r answer) :
    ∃ next, (s.handle a r).2.store = some next := by
  by_cases hsave : r.method = .put ∧ answer.status = 200
  · obtain ⟨next, hnext, -⟩ := h.saved hsave.1 hsave.2
    exact ⟨next, hnext⟩
  · exact ⟨d, h.kept hsave⟩

/-! ## Whole runs -/

variable {start : Document} {qs : List (Arrival × Request)}

/-- As long as no update exhausts the revisions, the store is in order. -/
theorem store_after (hs : s.store = some start) (hqs : ∀ q ∈ qs, s.Admits q.2)
    (hno : ∀ before q rest d, qs = before ++ q :: rest → (s.after before).store = some d → ¬ Exhausts d q.2)
    (before rest : List (Arrival × Request)) (h : qs = before ++ rest) : ∃ d, (s.after before).store = some d := by
  induction before using List.reverseRecOn generalizing rest with
  | nil => exact ⟨start, hs⟩
  | append_singleton before q ih =>
    have hsplit : qs = before ++ q :: rest := by rw [h, List.append_assoc]; rfl
    obtain ⟨d, hd⟩ := ih (q :: rest) hsplit
    have hq : (s.after before).Admits q.2 := (hqs q (by rw [hsplit]; simp)).after before
    obtain ⟨answer, hserves⟩ := serves_of_not_exhausts hd hq (hno before q rest d hsplit hd) q.1
    rw [after_snoc]
    exact hserves.store

/-- Once spoilt, the store is not mended. -/
theorem store_after_spoilt (hs : s.store = none) (hqs : ∀ q ∈ qs, s.Admits q.2) : (s.after qs).store = none := by
  induction qs using List.reverseRecOn with
  | nil => exact hs
  | append_singleton qs q ih =>
    have hnone := ih fun q' hq' => hqs q' (by simp [hq'])
    have hq : (s.after qs).Admits q.2 := (hqs q (by simp)).after qs
    rw [after_snoc, handle_spoilt hnone hq]
    exact hnone

theorem handle_after_exhausts (hs : s.store = some d) {q : Arrival × Request} (hex : Exhausts d q.2)
    (hqs : ∀ x ∈ q :: qs, s.Admits x.2) {q' : Arrival × Request} (hq' : s.Admits q'.2) :
    ((s.after (q :: qs)).handle q'.1 q'.2).1 = some spoilt := by
  have hnone : (s.after [q]).store = none := by
    rw [after_singleton, handle_exhausts hs (hqs q List.mem_cons_self) hex]
  have hrest : (s.after (q :: qs)).store = none :=
    store_after_spoilt (s := s.after [q]) hnone fun x hx => (hqs x (List.mem_cons_of_mem q hx)).after [q]
  rw [handle_spoilt hrest (hq'.after _)]

/-- Whatever document the service starts with, and whatever admitted requests it gets: each
is answered with one of four statuses, a save that is accepted stores a newer document, and
all else leaves the store as it is, exactly if no update that would be accepted arrives at the
last revision. One that does is not answered, and whatever comes after it meets with the report
that the store is spoilt. -/
theorem survives_iff (hs : s.store = some start) (hqs : ∀ q ∈ qs, s.Admits q.2) :
    ((∀ before q rest, qs = before ++ q :: rest →
        ∃ d answer, (s.after before).store = some d ∧ (s.after before).Serves d q.1 q.2 answer) ↔
      ∀ before q rest d, qs = before ++ q :: rest → (s.after before).store = some d → ¬ Exhausts d q.2) ∧
    ∀ before q rest d, qs = before ++ q :: rest → (s.after before).store = some d → Exhausts d q.2 →
      ((s.after before).handle q.1 q.2).1 = none ∧
      ∀ middle q' rest', rest = middle ++ q' :: rest' →
        ((s.after (before ++ q :: middle)).handle q'.1 q'.2).1 = some spoilt := by
  have hadmits : ∀ before q rest, qs = before ++ q :: rest → ∀ x ∈ q :: rest, (s.after before).Admits x.2 := by
    intro before q rest hsplit x hx
    exact (hqs x (by rw [hsplit]; exact List.mem_append_right _ hx)).after before
  refine ⟨⟨?_, ?_⟩, ?_⟩
  · intro h before q rest d hsplit hd hex
    obtain ⟨_, answer, -, hserves⟩ := h before q rest hsplit
    have hanswer := hserves.answered
    rw [handle_exhausts hd (hadmits before q rest hsplit q List.mem_cons_self) hex] at hanswer
    cases hanswer
  · intro hno before q rest hsplit
    obtain ⟨d, hd⟩ := store_after hs hqs hno before (q :: rest) hsplit
    have hq := hadmits before q rest hsplit q List.mem_cons_self
    obtain ⟨answer, hserves⟩ := serves_of_not_exhausts hd hq (hno before q rest d hsplit hd) q.1
    exact ⟨d, answer, hd, hserves⟩
  · intro before q rest d hsplit hd hex
    have hin := hadmits before q rest hsplit
    refine ⟨by rw [handle_exhausts hd (hin q List.mem_cons_self) hex], ?_⟩
    rintro middle q' rest' rfl
    rw [after_append]
    refine handle_after_exhausts hd hex (fun x hx => hin x ?_) (hin q' (by simp))
    rcases List.mem_cons.1 hx with rfl | hx
    · exact List.mem_cons_self
    · exact List.mem_cons_of_mem _ (List.mem_append_left _ hx)

/-- The service reaches the last revision, and still answers. -/
theorem survives_iff_reached :
    let u : TableUpdate := ⟨" people ", [⟨"id", "INT", true⟩], 0xFFFFFFFFFFFFFFFE, []⟩
    let start : Document := ⟨.ofList [("users", ⟨[⟨"key", "INT", true⟩], []⟩)], [], 0xFFFFFFFFFFFFFFFE⟩
    let save : Request :=
      { method := .put, target := "/api/table/users", contentType := some "application/json"
        body := u.toJson.compact }
    let fetch : Request := { method := .get, target := "/api/schema" }
    let noon : Arrival := ⟨"12:00", "7", "unknown"⟩
    let s : Service := { store := some start }
    s.Admits save ∧ s.Admits fetch ∧
      ∃ d answer, (s.after [(noon, save)]).store = some d ∧
        (s.after [(noon, save)]).Serves d noon fetch answer := by
  intro u start save fetch noon s
  have hsave : IsSave save "users" u := ⟨rfl, by decide +kernel, by decide +kernel, rfl⟩
  have hfetch : IsFetch fetch := ⟨rfl, by decide +kernel⟩
  have hs : s.Admits save := ⟨⟨_, task_of_isSave hsave⟩, rfl⟩
  have hf : s.Admits fetch := ⟨⟨_, task_of_isFetch hfetch⟩, rfl⟩
  have hqs : ∀ q ∈ [(noon, save), (noon, fetch)], s.Admits q.2 := by
    simp only [List.mem_cons, List.not_mem_nil, or_false]
    rintro q (rfl | rfl)
    · exact hs
    · exact hf
  have hstart : s.store = some start := rfl
  refine ⟨hs, hf, (survives_iff hstart hqs).1.2 ?_ [(noon, save)] (noon, fetch) [] rfl⟩
  intro before q rest d hsplit hd hex
  match before, hsplit with
  | [], hsplit =>
    cases hsplit
    cases hd
    exact absurd hex.1 (by decide)
  | [_], hsplit =>
    cases hsplit
    obtain ⟨-, name, u', edited, ht, -⟩ := hex
    rw [task_of_isFetch hfetch] at ht
    cases ht
  | _ :: _ :: _, hsplit => simp at hsplit

/-- A document at the last revision. One save, and nothing is answered any more. -/
theorem last_revision_spoils_store :
    let u : TableUpdate := ⟨"people", [⟨"id", "INT", true⟩], Document.lastRevision, []⟩
    let start : Document := ⟨.ofList [("users", ⟨[⟨"key", "INT", true⟩], []⟩)], [], Document.lastRevision⟩
    let save : Request :=
      { method := .put, target := "/api/table/users", contentType := some "application/json"
        body := u.toJson.compact }
    let fetch : Request := { method := .get, target := "/api/schema" }
    let noon : Arrival := ⟨"12:00", "7", "unknown"⟩
    let s : Service := { store := some start }
    s.Admits save ∧ s.Admits fetch ∧ (s.handle noon save).1 = none ∧ (s.after [(noon, save)]).store = none ∧
      ((s.after [(noon, save)]).handle noon fetch).1 = some spoilt ∧ spoilt.status = 500 := by
  intro u start save fetch noon s
  have hsave : IsSave save "users" u := ⟨rfl, by decide +kernel, by decide +kernel, rfl⟩
  have hfetch : IsFetch fetch := ⟨rfl, by decide +kernel⟩
  have hs : s.Admits save := ⟨⟨_, task_of_isSave hsave⟩, rfl⟩
  have hf : s.Admits fetch := ⟨⟨_, task_of_isFetch hfetch⟩, rfl⟩
  let edited : Document := ⟨.ofList [("people", ⟨u.fields, []⟩)], [], Document.lastRevision⟩
  have hu : start.applyUpdate "users" u = .exhausted edited := by decide +kernel
  have hex : Exhausts start save :=
    ⟨rfl, "users", u, edited, task_of_isSave hsave, Document.edited_of_exhausted hu⟩
  have hhandle := handle_exhausts (d := start) rfl hs hex noon
  have hnone : (s.after [(noon, save)]).store = none := by rw [after_singleton, hhandle]
  exact ⟨hs, hf, by rw [hhandle], hnone, by rw [handle_spoilt hnone (hf.after _)], rfl⟩

end SchemaAtlas.Service
