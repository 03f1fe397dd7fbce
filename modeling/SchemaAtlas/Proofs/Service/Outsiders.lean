import SchemaAtlas.Proofs.Service.Survival
/-!
# Requests without the key

Where a key is configured, a request that does not carry it is refused before the store is
looked at, if not already for its route or its body (`handle_of_unauthorized`). So such requests learn
nothing about the stored document and change nothing: `outsiders_learn_nothing` compares whole
runs, of services with different documents, and of the same service with and without the
requests that lack the key.
-/

namespace SchemaAtlas.Service

open Web

/-- The request does not carry the key: the header is missing, not readable as text, or another
one. -/
def Lacks (key : String) (r : Request) : Prop :=
  r.key = none ∨ ∃ header, r.key = some header ∧ (isReadableHeader header = false ∨ header ≠ key)

theorem authorizes_eq_false_iff {s : Service} {key : String} (hk : s.key = some key) (r : Request) :
    s.authorizes r = false ↔ Lacks key r := by
  unfold authorizes Lacks
  cases h : r.key with
  | none => simp [hk]
  | some header =>
    by_cases hr : isReadableHeader header = true
    · simp [hk, hr]
    · simp [hk, hr]

/-- Whether a request is let through is a matter of the key alone. -/
theorem authorizes_congr {s s' : Service} (h : s'.key = s.key) (r : Request) :
    s'.authorizes r = s.authorizes r := by
  unfold authorizes
  rw [h]

/-! ## One request -/

/-- The answer to a request without the key. It says whether the request could be read, and
nothing else. -/
def denial (r : Request) : Response :=
  match task r with
  | .error response => response
  | .ok _ => unauthorized

/-- A request without the key is answered without regard to the store, and leaves the service
as it is. -/
theorem handle_of_unauthorized {s : Service} {r : Request} (h : s.authorizes r = false) (a : Arrival) :
    s.handle a r = (some (denial r), s) := by
  unfold handle denial
  cases task r with
  | error response => rfl
  | ok t => simp [h]

/-! ## Runs -/

/-- The answers to requests, one after the other, each with its request. -/
def answers (s : Service) : List (Arrival × Request) → List (Request × Option Response)
  | [] => []
  | q :: qs => (q.2, (s.handle q.1 q.2).1) :: (s.handle q.1 q.2).2.answers qs

theorem after_cons (s : Service) (q : Arrival × Request) (qs : List (Arrival × Request)) :
    s.after (q :: qs) = (s.handle q.1 q.2).2.after qs := rfl

/-- Requests without the key leave the service as the others do. -/
theorem after_filter (s : Service) (qs : List (Arrival × Request)) :
    s.after (qs.filter fun q => s.authorizes q.2) = s.after qs := by
  induction qs generalizing s with
  | nil => rfl
  | cons q qs ih =>
    rw [after_cons]
    cases h : s.authorizes q.2 with
    | true =>
      rw [List.filter_cons_of_pos (by simp [h]), after_cons, ← ih]
      simp only [authorizes_congr (key_handle s q.1 q.2)]
    | false =>
      rw [List.filter_cons_of_neg (by simp [h]), handle_of_unauthorized h, ih]

/-- The others are answered as if there were none without the key. -/
theorem answers_filter (s : Service) (qs : List (Arrival × Request)) :
    (s.answers qs).filter (fun x => s.authorizes x.1) = s.answers (qs.filter fun q => s.authorizes q.2) := by
  induction qs generalizing s with
  | nil => rfl
  | cons q qs ih =>
    rw [answers]
    cases h : s.authorizes q.2 with
    | true =>
      rw [List.filter_cons_of_pos (by simp [h]), List.filter_cons_of_pos (by simp [h]), answers]
      have hrest := ih (s.handle q.1 q.2).2
      simp only [authorizes_congr (key_handle s q.1 q.2)] at hrest
      rw [hrest]
    | false =>
      rw [List.filter_cons_of_neg (by simp [h]), List.filter_cons_of_neg (by simp [h]), handle_of_unauthorized h, ih]

/-- Requests without the key are denied, whatever the store holds and the others do to it. -/
theorem answers_filter_not (s : Service) (qs : List (Arrival × Request)) :
    (s.answers qs).filter (fun x => !s.authorizes x.1) =
      (qs.filter fun q => !s.authorizes q.2).map fun q => (q.2, some (denial q.2)) := by
  induction qs generalizing s with
  | nil => rfl
  | cons q qs ih =>
    have hrest := ih (s.handle q.1 q.2).2
    simp only [authorizes_congr (key_handle s q.1 q.2)] at hrest
    rw [answers]
    cases h : s.authorizes q.2 with
    | true => rw [List.filter_cons_of_neg (by simp [h]), List.filter_cons_of_neg (by simp [h]), hrest]
    | false =>
      rw [List.filter_cons_of_pos (by simp [h]), List.filter_cons_of_pos (by simp [h]), List.map_cons, hrest,
        handle_of_unauthorized h]

/-- A service with a key. A request that lacks it is answered, with the same answer whatever
document is stored, and changes nothing. In a run of requests, those that lack the key get the
same answers whatever document is stored; the others get the answers that they would get, and
leave the service as they would leave it, if they were the only ones. -/
theorem outsiders_learn_nothing {s : Service} {key : String} (hk : s.key = some key) :
    (∀ (r : Request) (a : Arrival), Lacks key r →
      (∃ answer, (s.handle a r).1 = some answer) ∧ (s.handle a r).2 = s ∧
      ∀ (s' : Service) (a' : Arrival), s'.key = some key → (s'.handle a' r).1 = (s.handle a r).1) ∧
    ∀ qs : List (Arrival × Request),
      let insiders := qs.filter fun q => s.authorizes q.2
      (∀ q ∈ qs, q ∈ insiders ↔ ¬ Lacks key q.2) ∧
      s.after qs = s.after insiders ∧
      (s.answers qs).filter (fun x => s.authorizes x.1) = s.answers insiders ∧
      ∀ s' : Service, s'.key = some key →
        (s'.answers qs).filter (fun x => !s.authorizes x.1) = (s.answers qs).filter (fun x => !s.authorizes x.1) := by
  constructor
  · intro r a hr
    have hno := (authorizes_eq_false_iff hk r).2 hr
    rw [handle_of_unauthorized hno a]
    refine ⟨⟨denial r, rfl⟩, rfl, fun s' a' hk' => ?_⟩
    rw [handle_of_unauthorized ((authorizes_eq_false_iff hk' r).2 hr) a']
  · intro qs insiders
    refine ⟨fun q hq => ?_, (after_filter s qs).symm, answers_filter s qs, fun s' hk' => ?_⟩
    · rw [← authorizes_eq_false_iff hk, Bool.not_eq_false, List.mem_filter]
      exact and_iff_right hq
    · have hsame : ∀ r, s'.authorizes r = s.authorizes r := authorizes_congr (hk'.trans hk.symm)
      have hdenied := answers_filter_not s' qs
      simp only [hsame] at hdenied
      rw [hdenied, answers_filter_not s qs]

/-- Between two requests with the key come three without it: one that would rename the table, one
with an unreadable key, and one with a body that cannot be read. -/
theorem outsiders_learn_nothing_between :
    let start : Document := ⟨.ofList [("users", ⟨[⟨"id", "INT", true⟩], []⟩)], [], 3⟩
    let other : Document := ⟨.ofList [("secrets", ⟨[], []⟩)], [], 5⟩
    let s : Service := { store := some start, key := some "s3cret" }
    let fetch : Request := { method := .get, target := "/api/schema", key := some "s3cret" }
    let rename : Request :=
      { method := .put, target := "/api/table/users", key := some "secret", contentType := some "application/json"
        body := (⟨"people", [], 3, []⟩ : TableUpdate).toJson.compact }
    let unreadable : Request := { fetch with key := some "s3crét" }
    let garbled : Request := { rename with key := none, body := "?" }
    let noon : Arrival := ⟨"12:00", "7", "unknown"⟩
    let qs := [fetch, rename, unreadable, garbled, fetch].map (noon, ·)
    Lacks "s3cret" rename ∧ Lacks "s3cret" unreadable ∧ Lacks "s3cret" garbled ∧ ¬ Lacks "s3cret" fetch ∧
      s.after qs = s.after [(noon, fetch), (noon, fetch)] ∧
      (s.answers qs).filter (fun x => s.authorizes x.1) = s.answers [(noon, fetch), (noon, fetch)] ∧
      (({ s with store := some other } : Service).answers qs).filter (fun x => !s.authorizes x.1) =
        (s.answers qs).filter (fun x => !s.authorizes x.1) := by
  intro start other s fetch rename unreadable garbled noon qs
  have hk : s.key = some "s3cret" := rfl
  have hlacks : ∀ r, s.authorizes r = false → Lacks "s3cret" r := fun r => (authorizes_eq_false_iff hk r).1
  have hfetch : ¬ Lacks "s3cret" fetch := by
    rw [← authorizes_eq_false_iff hk]
    decide +kernel
  obtain ⟨-, hruns⟩ := outsiders_learn_nothing hk
  obtain ⟨-, hafter, hanswers, hothers⟩ := hruns qs
  have hinsiders : qs.filter (fun q => s.authorizes q.2) = [(noon, fetch), (noon, fetch)] := by decide +kernel
  rw [hinsiders] at hafter hanswers
  exact ⟨hlacks _ (by decide +kernel), hlacks _ (by decide +kernel), hlacks _ (by decide +kernel), hfetch,
    hafter, hanswers, hothers _ rfl⟩

end SchemaAtlas.Service
