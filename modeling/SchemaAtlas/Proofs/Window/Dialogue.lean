import Mathlib.Data.List.Induction
import SchemaAtlas.Proofs.Window.Calls
import SchemaAtlas.Proofs.Window.Runs
/-!
# The window and the service

A window and the service that it talks to, as its only client. A reload and a save may be on
their way together: the service handles them in any order, and the answers arrive in any order.
`InStep` is kept by every event as long as all calls succeed. When nothing is on its way any
more, the window shows the stored document, with one exception (`catches_up_iff`): what was
fetched before a save, and arrives after it, takes its place (`fetch_overtaken`).
-/

namespace SchemaAtlas

open Web Service

/-! ## The calls of a window -/

namespace Window

/-- Whether the window waits for the answer that an event brings. -/
def awaits (w : Window) (e : Event) : Bool :=
  e.fetchAnswer?.any (fun a => w.fetch.any (·.number = a.1)) ||
    e.saveAnswer?.any (fun a => w.save.any (·.number = a.1))

/-- The save that an event starts. -/
def startedSave? (w : Window) (e : Event) : Option SaveCall := fresh? w.save (w.step e).save

variable {w : Window} {e : Event}

/-- Without an answer, a load is waited for as before. -/
theorem isSome_fetch_step (hf : e.fetchAnswer? = none) (h : w.fetch.isSome = true) :
    (w.step e).fetch.isSome = true := by
  have heffect := effect_step w e
  generalize w.step e = w' at heffect ⊢
  cases heffect with
  | takesFetch he => cases hf.symm.trans he
  | fetches => rfl
  | rests ha => rw [ha.fetch, h]
  | _ => exact h

/-- Without an answer, a save is started only where none is under way. -/
theorem save_of_no_answer (hw : Steady w) (hs : e.saveAnswer? = none) :
    (w.step e).save = w.save ∨ w.save = none ∧ ∃ c, (w.step e).save = some c := by
  have heffect := effect_step w e
  generalize w.step e = w' at heffect ⊢
  cases heffect with
  | takesFetch => exact .inl (save_takeFetch ..)
  | takesSave he => cases hs.symm.trans he
  | fetches ha => exact .inl ha.save
  | sends hidle =>
    have hsaving := hw.saving
    rw [(any_saving_of_idleDraft? hidle).1] at hsaving
    exact .inr ⟨Option.isNone_iff_eq_none.1 (Option.isSome_eq_false_iff.1 hsaving), _, rfl⟩
  | rests ha => exact .inl ha.save
  | _ => exact .inl rfl

theorem startedSave?_cases (hw : Steady w) (hs : e.saveAnswer? = none) :
    w.startedSave? e = none ∧ (w.step e).save = w.save ∨
      w.save = none ∧ ∃ c, w.startedSave? e = some c ∧ (w.step e).save = some c := by
  unfold startedSave?
  rcases save_of_no_answer hw hs with hsame | ⟨hnone, c, hc⟩
  · exact .inl ⟨by rw [hsame, fresh?_self], hsame⟩
  · refine .inr ⟨hnone, c, ?_, hc⟩
    rw [hc, hnone]
    exact fresh?_eq_some nofun

end Window

/-- A window and its service, with what is on its way between them. All calls of the window
reach the service, and no one else's do. -/
structure Dialogue where
  window : Window
  service : Service
  /-- The calls that the service has not handled yet. -/
  calls : List Dialogue.Call := []
  /-- The answers on their way to the window. -/
  answers : List Window.Event := []
  /-- All answers that the service gave, in its order. -/
  given : List Window.Event := []
  /-- All answers that the window took, in its order. -/
  taken : List Window.Event := []

namespace Dialogue

open Window (FetchCall SaveCall Steady)

/-! ## Runs -/

/-- What can happen between a window and its service. -/
inductive Event
  /-- Something happens at the window, other than an answer. -/
  | act (e : Window.Event)
  /-- The service handles one of the calls on their way. -/
  | serve (i : Nat) (a : Arrival)
  /-- One of the answers on their way arrives. -/
  | deliver (i : Nat)

/-- A new window has started its first call. -/
def start (w : Window) (s : Service) : Dialogue where
  window := w
  service := s
  calls := w.fetch.toList.map .fetch

/-- What follows from an event. One that is about nothing on its way does nothing. -/
def step (t : Dialogue) : Event → Dialogue
  | .act e =>
    if e.fetchAnswer?.isSome || e.saveAnswer?.isSome then t
    else
      { t with window := t.window.step e
               calls := t.calls ++ (t.window.startedFetch? e).toList.map .fetch ++
                 (t.window.startedSave? e).toList.map .save }
  | .serve i a =>
    match t.calls[i]? with
    | none => t
    | some c =>
      let answer := c.answer fun _ r => (t.service.handle a r).1
      { t with service := (c.sent?.map fun r => (t.service.handle a r).2).getD t.service
               calls := t.calls.eraseIdx i
               answers := t.answers ++ [answer], given := t.given ++ [answer] }
  | .deliver i =>
    match t.answers[i]? with
    | none => t
    | some e =>
      { t with window := t.window.step e, answers := t.answers.eraseIdx i
               taken := t.taken ++ if t.window.awaits e then [e] else [] }

/-- What follows from events, one after the other. -/
def run (t : Dialogue) (es : List Event) : Dialogue := es.foldl step t

/-- Nothing is on its way any more. -/
def Quiet (t : Dialogue) : Prop := t.calls = [] ∧ t.answers = []

/-- All calls were answered with a document. -/
def Succeeds (t : Dialogue) : Prop := ∀ e ∈ t.given, ∃ d, e.document? = some d

/-- The answer that the window took last is to a fetch that was handled before a save. -/
def Overtaken (t : Dialogue) : Prop :=
  ∃ before e after, t.given = before ++ e :: after ∧ t.taken.getLast? = some e ∧ e.isSave = false ∧
    ∃ later ∈ after, later.isSave = true

/-! ## What an event keeps -/

/-- Of answers in the service's order, those before a save are older than `d`, and those since
the last save bring `d`. -/
def Dated (given : List Window.Event) (d : Document) : Prop :=
  ∀ before e after x, given = before ++ e :: after → e.document? = some x →
    ((∀ later ∈ after, later.isSave = false) → x = d) ∧
      ((∃ later ∈ after, later.isSave = true) → x.revision.toNat < d.revision.toNat)

/-- The service holds `d`, and its answers are dated so. The window shows what it took last,
or still waits for its first fetch. What it waits for is on its way, and no other save is; so
it takes the answers to saves in the order in which they are given. -/
structure InStep (t : Dialogue) (d : Document) : Prop where
  store : t.service.store = some d
  steady : t.window.Steady
  dated : Dated t.given d
  shown : ∀ e, t.taken.getLast? = some e → e.document? = some t.window.scene.document
  first : t.taken = [] → t.window.fetch.isSome = true
  fetch : ∀ c, t.window.fetch = some c → .fetch c ∈ t.calls ∨ ∃ r, .fetched c.number r ∈ t.answers
  save : ∀ n, t.calls.countP (·.saveNumber? = some n) + t.answers.countP (·.saveNumber? = some n) =
    if t.window.save.map SaveCall.number = some n then 1 else 0
  saves : t.given.filter (·.isSave) = t.taken.filter (·.isSave) ++ t.answers.filter (·.isSave)
  known : ∀ e ∈ t.taken ++ t.answers, e ∈ t.given

theorem inStep_start (place : Window.Place) (files : Files) (server : Server) (settings : Settings)
    (entropy : Random.Entropy) {s : Service} {d : Document} (hs : s.store = some d) :
    InStep (start (.new place files server settings entropy) s) d where
  store := hs
  steady := Window.steady_new ..
  dated before e after x h := by
    cases before <;> cases h
  shown e he := by cases he
  first _ := rfl
  fetch c hc := by
    cases hc
    exact .inl (List.mem_singleton.2 rfl)
  save n := rfl
  saves := rfl
  known e he := absurd he List.not_mem_nil

variable {t : Dialogue} {d : Document}

theorem split_eraseIdx {α : Type} {l : List α} {i : Nat} {a : α} (h : l[i]? = some a) :
    ∃ xs ys, l = xs ++ a :: ys ∧ l.eraseIdx i = xs ++ ys := by
  obtain ⟨hi, rfl⟩ := List.getElem?_eq_some_iff.1 h
  refine ⟨l.take i, l.drop (i + 1), ?_, List.eraseIdx_eq_take_drop_succ l i⟩
  rw [List.getElem_cons_drop, List.take_append_drop]

theorem split_snoc {α : Type} {l before after : List α} {a e : α} (h : l ++ [a] = before ++ e :: after) :
    (after = [] ∧ e = a) ∨ ∃ after', after = after' ++ [a] ∧ l = before ++ e :: after' := by
  rcases List.eq_nil_or_concat after with rfl | ⟨after', b, rfl⟩
  · obtain ⟨-, he⟩ := List.append_inj' h rfl
    cases he
    exact .inl ⟨rfl, rfl⟩
  · rw [List.concat_eq_append, ← List.cons_append, ← List.append_assoc] at h
    obtain ⟨hl, hb⟩ := List.append_inj' h rfl
    cases hb
    exact .inr ⟨after', List.concat_eq_append, hl⟩

theorem inStep_act (h : InStep t d) (e : Window.Event) : InStep (t.step (.act e)) d := by
  simp only [step]
  split
  · exact h
  · next hno =>
    obtain ⟨hf, hs⟩ : e.fetchAnswer? = none ∧ e.saveAnswer? = none := by simpa using hno
    refine ⟨h.store, Window.steady_step h.steady e, h.dated, fun x hx => ?_, fun hnil => ?_, fun c hc => ?_,
      fun n => ?_, h.saves, h.known⟩
    · rw [Window.document_step _ hf hs]
      exact h.shown x hx
    · exact Window.isSome_fetch_step hf (h.first hnil)
    · -- The fetch was under way before, or it has just been started.
      by_cases hold : t.window.fetch = some c
      · rcases h.fetch c hold with hcall | hanswer
        · exact .inl (by simp [hcall])
        · exact .inr hanswer
      · have hnew : t.window.startedFetch? e = some c := by
          rw [Window.startedFetch?, hc]
          exact Window.fresh?_eq_some hold
        exact .inl (by simp [hnew])
    · have hcount := h.save n
      have hfetches : ((t.window.startedFetch? e).toList.map Call.fetch).countP (·.saveNumber? = some n) = 0 := by
        cases t.window.startedFetch? e <;> rfl
      rcases Window.startedSave?_cases h.steady hs with ⟨hnone, hsame⟩ | ⟨hnone, c, hnew, hc⟩
      · rw [List.countP_append, List.countP_append, hfetches, hnone, hsame]
        exact hcount
      · have hone : [Call.save c].countP (·.saveNumber? = some n) = if some c.number = some n then 1 else 0 := by
          simp [List.countP_singleton, Call.saveNumber?]
        rw [hnone, Option.map_none, if_neg (Option.some_ne_none n).symm] at hcount
        show List.countP _ (t.calls ++ _ ++ _) + List.countP _ t.answers = _
        rw [List.countP_append, List.countP_append, hfetches, hnew, hc, Option.toList_some, List.map_singleton, hone,
          Option.map_some]
        omega

/-! ## The service -/

theorem Dated.revision_le {given before after : List Window.Event} (h : Dated given d) {e : Window.Event}
    {x : Document} (hgiven : given = before ++ e :: after) (hx : e.document? = some x) :
    x.revision.toNat ≤ d.revision.toNat := by
  obtain ⟨hsame, holder⟩ := h before e after x hgiven hx
  by_cases hsave : ∃ later ∈ after, later.isSave = true
  · exact Nat.le_of_lt (holder hsave)
  · have hnone : ∀ later ∈ after, later.isSave = false := fun later hl =>
      Bool.eq_false_iff.2 fun ht => hsave ⟨later, hl, ht⟩
    exact Nat.le_of_eq (congrArg (·.revision.toNat) (hsame hnone))

/-- The newest answer brings what is stored, so only the older ones have to be dated again. -/
theorem dated_snoc {given : List Window.Event} {e : Window.Event} {next : Document} (he : e.document? = some next)
    (hold : ∀ before b after x, given = before ++ b :: after → b.document? = some x →
      ((∀ later ∈ after ++ [e], later.isSave = false) → x = next) ∧
        ((∃ later ∈ after ++ [e], later.isSave = true) → x.revision.toNat < next.revision.toNat)) :
    Dated (given ++ [e]) next := by
  intro before b after x hgiven hx
  rcases split_snoc hgiven with ⟨rfl, rfl⟩ | ⟨after', rfl, hsplit⟩
  · cases he.symm.trans hx
    exact ⟨fun _ => rfl, fun ⟨_, hl, _⟩ => absurd hl List.not_mem_nil⟩
  · exact hold before b after' x hsplit hx

theorem Dated.fetch {given : List Window.Event} (h : Dated given d) {e : Window.Event}
    (he : e.document? = some d) (hs : e.isSave = false) : Dated (given ++ [e]) d := by
  refine dated_snoc he fun before b after x hgiven hx => ?_
  obtain ⟨hsame, holder⟩ := h before b after x hgiven hx
  refine ⟨fun hnone => hsame fun later hl => hnone later (List.mem_append_left _ hl), ?_⟩
  rintro ⟨later, hl, hsave⟩
  rcases List.mem_append.1 hl with hl | hl
  · exact holder ⟨later, hl, hsave⟩
  · rw [List.mem_singleton.1 hl, hs] at hsave
    cases hsave

theorem Dated.save {given : List Window.Event} (h : Dated given d) {e : Window.Event} {next : Document}
    (he : e.document? = some next) (hs : e.isSave = true) (hnext : next.revision.toNat = d.revision.toNat + 1) :
    Dated (given ++ [e]) next := by
  refine dated_snoc he fun before b after x hgiven hx => ?_
  have hle := h.revision_le hgiven hx
  refine ⟨fun hnone => ?_, fun _ => by omega⟩
  have := hnone e (List.mem_append_right _ List.mem_cons_self)
  cases hs.symm.trans this

theorem inStep_serve (h : InStep t d) (i : Nat) (a : Arrival) (hok : (t.step (.serve i a)).Succeeds) :
    ∃ d', InStep (t.step (.serve i a)) d' := by
  cases hc : t.calls[i]? with
  | none =>
    refine ⟨d, ?_⟩
    simpa [step, hc] using h
  | some c =>
    obtain ⟨xs, ys, hcalls, herase⟩ := split_eraseIdx hc
    simp only [step, hc, herase] at hok ⊢
    generalize hanswer : (c.answer fun _ r => (t.service.handle a r).1) = answer at hok ⊢
    have hnumber : answer.saveNumber? = c.saveNumber? := hanswer ▸ saveNumber?_answer _ c
    obtain ⟨x, hx⟩ := hok answer (List.mem_append_right _ List.mem_cons_self)
    obtain ⟨hstore, hfetch, hsave⟩ := stored_of_answer h.store (hanswer ▸ hx)
    refine ⟨x, hstore, h.steady, ?_, h.shown, h.first, fun b hb => ?_, fun n => ?_, ?_, fun e he => ?_⟩
    · cases hn : c.saveNumber? with
      | none =>
        cases hfetch hn
        exact h.dated.fetch hx (by rw [Window.Event.isSave, hnumber, hn]; rfl)
      | some n =>
        exact h.dated.save hx (by rw [Window.Event.isSave, hnumber, hn]; rfl) (hsave (by rw [hn]; nofun))
    · rcases h.fetch b hb with hcall | ⟨r, hr⟩
      · rw [hcalls] at hcall
        rcases List.mem_append.1 hcall with hcall | hcall
        · exact .inl (List.mem_append_left _ hcall)
        · rcases List.mem_cons.1 hcall with rfl | hcall
          · exact .inr ⟨_, List.mem_append_right _ (List.mem_singleton.2 hanswer)⟩
          · exact .inl (List.mem_append_right _ hcall)
      · exact .inr ⟨r, List.mem_append_left _ hr⟩
    · have hcount := h.save n
      rw [hcalls] at hcount
      simp only [List.countP_append, List.countP_cons, List.countP_nil, hnumber] at hcount ⊢
      omega
    · rw [List.filter_append, h.saves, List.filter_append, List.append_assoc]
    · rw [← List.append_assoc] at he
      rcases List.mem_append.1 he with he | he
      · exact List.mem_append_left _ (h.known e he)
      · exact List.mem_append_right _ he

/-! ## The window -/

/-- An answer that arrives was given before, like all those that the window took and those
that are still on their way. -/
theorem InStep.known_deliver (h : InStep t d) {i : Nat} {e : Window.Event} (hi : t.answers[i]? = some e) :
    ∀ b ∈ (t.taken ++ [e]) ++ t.answers.eraseIdx i, b ∈ t.given := by
  intro b hb
  apply h.known
  simp only [List.mem_append, List.mem_singleton] at hb ⊢
  rcases hb with (hb | rfl) | hb
  · exact .inl hb
  · exact .inr (List.mem_of_getElem? hi)
  · exact .inr (List.mem_of_mem_eraseIdx hb)

/-- The fetch that the window waits for is still on its way, if the answer that arrives is
another. -/
theorem InStep.fetch_deliver (h : InStep t d) {i : Nat} {e : Window.Event} (hi : t.answers[i]? = some e)
    {c : FetchCall} (hc : t.window.fetch = some c) (hne : ∀ r, .fetched c.number r ≠ e) :
    .fetch c ∈ t.calls ∨ ∃ r, .fetched c.number r ∈ t.answers.eraseIdx i := by
  obtain ⟨xs, ys, hanswers, herase⟩ := split_eraseIdx hi
  rcases h.fetch c hc with hcall | ⟨r, hr⟩
  · exact .inl hcall
  · refine .inr ⟨r, ?_⟩
    rw [hanswers] at hr
    rw [herase]
    simp only [List.mem_append, List.mem_cons] at hr ⊢
    rcases hr with hr | hr | hr
    · exact .inl hr
    · exact absurd hr (hne r)
    · exact .inr hr

/-- A document arrives that was fetched. It is shown, unless a later fetch is waited for. -/
theorem inStep_fetched (h : InStep t d) {i : Nat} {e : Window.Event} (hi : t.answers[i]? = some e) {number : Nat}
    {x : Document} (hf : e.fetchAnswer? = some (number, .ok x)) (hs : e.saveAnswer? = none) :
    InStep (t.step (.deliver i)) d := by
  obtain ⟨xs, ys, hanswers, herase⟩ := split_eraseIdx hi
  have hnumber : e.saveNumber? = none := by rw [Window.Event.saveNumber?, hs]; rfl
  have hcount : ∀ n, (t.answers.eraseIdx i).countP (·.saveNumber? = some n) =
      t.answers.countP (·.saveNumber? = some n) := by
    intro n
    rw [herase]
    simp [hanswers, hnumber]
  have hsaves : (t.answers.eraseIdx i).filter (·.isSave) = t.answers.filter (·.isSave) := by
    rw [herase]
    simp [hanswers, Window.Event.isSave, hnumber]
  have hknown := h.known_deliver hi
  simp only [step, hi]
  rcases Window.fetchAnswer_step (w := t.window) hf with ⟨c, hc, hn, hstep⟩ | ⟨hne, hstep⟩
  · have hawaits : t.window.awaits e = true := by simp [Window.awaits, hf, hc, hn]
    have hsteady := Window.steady_step h.steady e
    rw [hawaits, if_pos rfl]
    rw [hstep] at hsteady ⊢
    refine ⟨h.store, hsteady, h.dated, fun b hb => ?_, fun hnil => ?_, fun b hb => ?_, fun n => ?_, ?_, hknown⟩
    · rw [List.getLast?_concat] at hb
      cases hb
      rw [Window.Event.document?, hf]
      exact congrArg some (Scene.document_build ..).symm
    · simp at hnil
    · rw [Window.fetch_takeFetch] at hb
      cases hb
    · rw [hcount, Window.save_takeFetch]
      exact h.save n
    · rw [hsaves, List.filter_append, h.saves]
      simp [Window.Event.isSave, hnumber]
  · have hawaits : t.window.awaits e = false := by
      cases hc : t.window.fetch with
      | none => simp [Window.awaits, hf, hs, hc]
      | some c =>
        rw [hc] at hne
        simpa [Window.awaits, hf, hs, hc] using hne
    rw [hawaits, if_neg nofun, hstep, List.append_nil]
    refine ⟨h.store, h.steady, h.dated, h.shown, h.first, fun c hc => ?_, fun n => ?_, ?_, fun b hb => ?_⟩
    · apply h.fetch_deliver hi hc
      rintro r rfl
      have hn : c.number = number := congrArg Prod.fst (Option.some.inj hf)
      rw [hc] at hne
      exact hne (congrArg some hn)
    · rw [hcount]
      exact h.save n
    · rw [hsaves]
      exact h.saves
    · apply hknown
      simp only [List.mem_append] at hb ⊢
      rcases hb with hb | hb
      · exact .inl (.inl hb)
      · exact .inr hb

/-- The save whose answer arrives is the one that the window waits for, and no other is on its
way. -/
theorem InStep.only_save (h : InStep t d) {i : Nat} {e : Window.Event} (hi : t.answers[i]? = some e) {number : Nat}
    (hnumber : e.saveNumber? = some number) :
    (∃ c, t.window.save = some c ∧ c.number = number) ∧
      ∀ n, t.calls.countP (·.saveNumber? = some n) + (t.answers.eraseIdx i).countP (·.saveNumber? = some n) = 0 := by
  obtain ⟨xs, ys, hanswers, herase⟩ := split_eraseIdx hi
  have hcount : ∀ n, t.calls.countP (·.saveNumber? = some n) +
      ((t.answers.eraseIdx i).countP (·.saveNumber? = some n) + if number = n then 1 else 0) =
        if t.window.save.map SaveCall.number = some n then 1 else 0 := by
    intro n
    rw [← h.save n, herase, hanswers]
    simp only [List.countP_append, List.countP_cons, hnumber, Option.some.injEq, decide_eq_true_eq]
    omega
  have hsave : t.window.save.map SaveCall.number = some number := by
    have hone := hcount number
    rw [if_pos rfl] at hone
    by_contra hne
    rw [if_neg hne] at hone
    omega
  refine ⟨Option.map_eq_some_iff.1 hsave, fun n => ?_⟩
  have hone := hcount n
  rw [hsave] at hone
  simp only [Option.some.injEq] at hone
  omega

theorem filter_isSave_eq_nil {l : List Window.Event} (h : ∀ n, l.countP (·.saveNumber? = some n) = 0) :
    l.filter (·.isSave) = [] := by
  refine List.filter_eq_nil_iff.2 fun b hb hsave => ?_
  obtain ⟨n, hn⟩ := Option.isSome_iff_exists.1 hsave
  have hpos : 0 < l.countP (·.saveNumber? = some n) := List.countP_pos_iff.2 ⟨b, hb, decide_eq_true hn⟩
  have := h n
  omega

/-- A document arrives that was saved. It is always waited for, and shown. -/
theorem inStep_saved (h : InStep t d) {i : Nat} {e : Window.Event} (hi : t.answers[i]? = some e) {number : Nat}
    {x : Document} (hf : e.fetchAnswer? = none) (hs : e.saveAnswer? = some (number, .ok x)) :
    InStep (t.step (.deliver i)) d := by
  obtain ⟨xs, ys, hanswers, herase⟩ := split_eraseIdx hi
  have hnumber : e.saveNumber? = some number := by rw [Window.Event.saveNumber?, hs]; rfl
  obtain ⟨⟨c, hc, hn⟩, hnone⟩ := h.only_save hi hnumber
  have hrest : (t.answers.eraseIdx i).filter (·.isSave) = [] :=
    filter_isSave_eq_nil fun n => Nat.eq_zero_of_add_eq_zero_left (hnone n)
  have hstep : t.window.step e = t.window.takeSave (.ok x) := by
    rcases Window.save_step h.steady hc e with ⟨r, hr, hstep⟩ | ⟨hno, -⟩
    · cases hs.symm.trans hr
      exact hstep
    · exact absurd (hn ▸ hs) (hno _)
  have hawaits : t.window.awaits e = true := by simp [Window.awaits, hs, hc, hn]
  have hsteady := Window.steady_step h.steady e
  simp only [step, hi]
  rw [hawaits, if_pos rfl]
  rw [hstep] at hsteady ⊢
  refine ⟨h.store, hsteady, h.dated, fun b hb => ?_, fun hnil => ?_, fun b hb => ?_, hnone, ?_, h.known_deliver hi⟩
  · rw [List.getLast?_concat] at hb
    cases hb
    rw [Window.Event.document?, hf, hs, Window.document_takeSave]
    rfl
  · simp at hnil
  · apply h.fetch_deliver hi hb
    rintro r rfl
    cases hf
  · have hsplit := hrest
    rw [herase, List.filter_append, List.append_eq_nil_iff] at hsplit
    rw [h.saves, hrest, hanswers]
    simp [List.filter_cons, hsplit.1, hsplit.2]

theorem inStep_deliver (h : InStep t d) (i : Nat) (hok : t.Succeeds) : InStep (t.step (.deliver i)) d := by
  cases hi : t.answers[i]? with
  | none => simpa [step, hi] using h
  | some e =>
    have hgiven : e ∈ t.given := h.known e (List.mem_append_right _ (List.mem_of_getElem? hi))
    obtain ⟨x, hx⟩ := hok e hgiven
    rcases Window.Event.answer_cases hx with ⟨number, hf, hs⟩ | ⟨number, hf, hs⟩
    · exact inStep_fetched h hi hf hs
    · exact inStep_saved h hi hf hs

/-! ## Whole runs -/

/-- What was answered stays answered. -/
theorem given_step (t : Dialogue) (e : Event) : t.given ⊆ (t.step e).given := by
  cases e with
  | act e =>
    simp only [step]
    split
    · exact List.Subset.refl _
    · exact List.Subset.refl _
  | serve i a =>
    simp only [step]
    split
    · exact List.Subset.refl _
    · exact List.subset_append_left ..
  | deliver i =>
    simp only [step]
    split
    · exact List.Subset.refl _
    · exact List.Subset.refl _

theorem inStep_step (h : InStep t d) (e : Event) (hok : (t.step e).Succeeds) :
    ∃ d', InStep (t.step e) d' := by
  cases e with
  | act e => exact ⟨d, inStep_act h e⟩
  | serve i a => exact inStep_serve h i a hok
  | deliver i => exact ⟨d, inStep_deliver h i fun e he => hok e (given_step t _ he)⟩

theorem inStep_run (h : InStep t d) (es : List Event) (hok : (t.run es).Succeeds) :
    ∃ d', InStep (t.run es) d' := by
  induction es using List.reverseRecOn with
  | nil => exact ⟨d, h⟩
  | append_singleton es e ih =>
    have hrun : t.run (es ++ [e]) = (t.run es).step e := List.foldl_append
    rw [hrun] at hok ⊢
    obtain ⟨d', h'⟩ := ih fun b hb => hok b (given_step _ e hb)
    exact inStep_step h' e hok

/-- When nothing is on its way any more, the window has taken an answer. -/
theorem InStep.taken_of_quiet (h : InStep t d) (hq : t.Quiet) : ∃ e, t.taken.getLast? = some e ∧ e ∈ t.given := by
  cases he : t.taken.getLast? with
  | none =>
    -- The first fetch would still be waited for, but it is not on its way.
    obtain ⟨c, hc⟩ := Option.isSome_iff_exists.1 (h.first (List.getLast?_eq_none_iff.1 he))
    have hfetch := h.fetch c hc
    rw [hq.1, hq.2] at hfetch
    simp at hfetch
  | some e => exact ⟨e, rfl, h.known e (List.mem_append_left _ (List.mem_of_getLast? he))⟩

/-- Saves are taken in the order in which they are handled. So if the answer taken last is to
a save, it is to the last one. -/
theorem InStep.last_save (h : InStep t d) (hq : t.Quiet) {e : Window.Event} (he : t.taken.getLast? = some e)
    (hs : e.isSave = true) :
    ∃ before after, t.given = before ++ e :: after ∧ ∀ later ∈ after, later.isSave = false := by
  obtain ⟨rest, hrest⟩ := List.getLast?_eq_some_iff.1 he
  have hsaves := h.saves
  rw [hq.2, hrest, List.filter_append, List.filter_nil, List.append_nil, List.filter_singleton, hs] at hsaves
  obtain ⟨l, m, hgiven, -, hm⟩ := List.filter_eq_append_iff.1 hsaves
  obtain ⟨before, after, rfl, -, -, hafter⟩ := List.filter_eq_cons_iff.1 hm
  refine ⟨l ++ before, after, by rw [hgiven, List.append_assoc], fun later hl => ?_⟩
  exact Bool.eq_false_iff.2 (List.filter_eq_nil_iff.1 hafter later hl)

/-- However the calls of a window and the answers to them cross, if all of them succeed: once
nothing is on its way any more, the window shows the stored document, unless the answer that
it took last is to a fetch that was handled before a save. Then what it shows is older. -/
theorem catches_up_iff (place : Window.Place) (files : Files) (server : Server) (settings : Settings)
    (entropy : Random.Entropy) {s : Service} {first : Document} (hs : s.store = some first) (es : List Event) :
    let t := (start (.new place files server settings entropy) s).run es
    t.Succeeds → t.Quiet →
      ∃ d, t.service.store = some d ∧ (t.window.scene.document = d ↔ ¬ t.Overtaken) ∧
        (t.Overtaken → t.window.scene.document.revision < d.revision) := by
  intro t hok hq
  obtain ⟨d, h⟩ := inStep_run (inStep_start place files server settings entropy hs) es hok
  obtain ⟨e, he, hgiven⟩ := h.taken_of_quiet hq
  have hx := h.shown e he
  have older : t.Overtaken → t.window.scene.document.revision.toNat < d.revision.toNat := by
    rintro ⟨before, e', after, hsplit, he', -, hlater⟩
    cases he.symm.trans he'
    exact (h.dated before e after _ hsplit hx).2 hlater
  refine ⟨d, h.store, ⟨fun hd ho => ?_, fun hno => ?_⟩, fun ho => UInt64.lt_iff_toNat_lt.2 (older ho)⟩
  · have := older ho
    rw [hd] at this
    exact Nat.lt_irrefl _ this
  · cases hsave : e.isSave with
    | true =>
      obtain ⟨before, after, hsplit, hafter⟩ := h.last_save hq he hsave
      exact (h.dated before e after _ hsplit hx).1 hafter
    | false =>
      obtain ⟨before, after, hsplit⟩ := List.append_of_mem hgiven
      refine (h.dated before e after _ hsplit hx).1 fun later hl => ?_
      exact Bool.eq_false_iff.2 fun ht => hno ⟨before, e, after, hsplit, he, hsave, later, hl, ht⟩

theorem succeeds_of_documents {ds : List Document} (h : t.given.map Window.Event.document? = ds.map some) :
    t.Succeeds := by
  intro e he
  have hmem : e.document? ∈ ds.map some := h ▸ List.mem_map_of_mem he
  obtain ⟨d, -, hd⟩ := List.mem_map.1 hmem
  exact ⟨d, hd.symm⟩

/-- A fetch and a save are under way together. The fetch is handled first, and its answer
arrives first. -/
theorem catches_up_iff_crossing :
    let shop : Document := ⟨.ofList [("users", {})], [], 0⟩
    let settings : Settings := { schemaEndpoint := "http://[::1]", particleCount := 0 }
    let noon : Arrival := ⟨"12:00", "7", "unknown"⟩
    let s : Service := { store := some shop }
    let es : List Event := [.serve 0 noon, .deliver 0, .act (.openEditor "users"),
      .act (.editDraft (.setName "people")), .act .reload, .act .saveDraft, .serve 0 noon, .serve 0 noon,
      .deliver 0, .deliver 0]
    let t := (start (.new ⟨{}, "/tmp"⟩ {} {} settings (.ofSeed 7)) s).run es
    s.store = some shop ∧ t.Succeeds ∧ t.Quiet ∧ t.service.store = some t.window.scene.document := by
  intro shop settings noon s es t
  have hstore : s.store = some shop := rfl
  let sold : Document := ⟨.ofList [("people", {})], [], 1⟩
  have heval : (t.given.map Window.Event.document?, t.calls, t.answers.length,
      t.taken.getLast?.map Window.Event.isSave) = ([shop, shop, sold].map some, [], 0, some true) := by
    decide +kernel
  simp only [Prod.mk.injEq] at heval
  obtain ⟨hgiven, hcalls, hanswers, hlast⟩ := heval
  have hok : t.Succeeds := succeeds_of_documents hgiven
  have hq : t.Quiet := ⟨hcalls, List.length_eq_zero_iff.1 hanswers⟩
  have hno : ¬ t.Overtaken := by
    rintro ⟨_, e, _, -, he, hsave, -⟩
    rw [he, Option.map_some, hsave] at hlast
    cases hlast
  have hcatches := catches_up_iff ⟨{}, "/tmp"⟩ {} {} settings (.ofSeed 7) hstore es
  have ht : (start (.new ⟨{}, "/tmp"⟩ {} {} settings (.ofSeed 7)) s).run es = t := rfl
  -- The run need not be computed any further.
  clear_value t
  simp only [ht] at hcatches
  obtain ⟨d, hd, hiff, -⟩ := hcatches hok hq
  refine ⟨hstore, hok, hq, ?_⟩
  rw [hd, hiff.2 hno]

/-- The same calls, handled in the same order, but the save is answered sooner. What was
fetched before the save then takes the place of what was saved, and nothing is left that could
put it right. -/
theorem fetch_overtaken :
    let shop : Document := ⟨.ofList [("users", {})], [], 0⟩
    let sold : Document := ⟨.ofList [("people", {})], [], 1⟩
    let settings : Settings := { schemaEndpoint := "http://[::1]", particleCount := 0 }
    let noon : Arrival := ⟨"12:00", "7", "unknown"⟩
    let t := (start (.new ⟨{}, "/tmp"⟩ {} {} settings (.ofSeed 7)) { store := some shop }).run
      [.serve 0 noon, .deliver 0, .act (.openEditor "users"), .act (.editDraft (.setName "people")), .act .reload,
        .act .saveDraft, .serve 0 noon, .serve 0 noon, .deliver 1, .deliver 0]
    t.Succeeds ∧ t.Quiet ∧ t.service.store = some sold ∧ t.window.scene.document = shop ∧
      t.window.scene.document.revision < sold.revision := by
  intro shop sold settings noon t
  have heval : (t.given.map Window.Event.document?, t.calls, t.answers.length, t.service.store,
      t.window.scene.document) = ([shop, shop, sold].map some, [], 0, some sold, shop) := by
    decide +kernel
  simp only [Prod.mk.injEq] at heval
  obtain ⟨hgiven, hcalls, hanswers, hstore, hdocument⟩ := heval
  refine ⟨succeeds_of_documents hgiven, ⟨hcalls, List.length_eq_zero_iff.1 hanswers⟩, hstore, hdocument, ?_⟩
  rw [hdocument]
  decide

end Dialogue
end SchemaAtlas
