import SchemaAtlas.Proofs.Draft.Rows
import SchemaAtlas.Proofs.Window.Effect
/-!
# What every window keeps

A window from its start on, through any events. `Steady` says how the calls, the draft and the
schema fit, and `AwaitsLatest` that of all fetches only the latest is waited for. Every event
keeps both, so they hold of every window; `run_keeps_calls` says what they amount to.
-/

namespace SchemaAtlas.Window

/-! ## The calls and the draft -/

/-- A save is under way exactly while the draft is being saved, a failed load leaves no
schema, and what is loading is waited for. -/
structure Steady (w : Window) : Prop where
  saving : w.save.isSome = w.editor.any Draft.saving
  failed : ∀ reason, w.load = .failed reason → w.scene.document = .empty
  loading : w.load = .loading → w.fetch.isSome = true
  coherent : w.scene.Coherent

variable {w : Window}

theorem steady_new (place : Place) (files : Files) (server : Server) (settings : Settings)
    (entropy : Random.Entropy) : Steady (new place files server settings entropy) :=
  ⟨rfl, nofun, fun _ => rfl, Scene.coherent_new ..⟩

theorem Steady.congr {v : Window} (h : Steady w) (ha : Alike w v) : Steady v where
  saving := by rw [ha.save, ha.editor, h.saving]
  failed := by
    rw [ha.load, ha.document]
    exact h.failed
  loading := by
    rw [ha.load, ha.fetch]
    exact h.loading
  coherent := ha.coherent h.coherent

/-- A draft may take the place of another that is being saved, or is not, as it is. -/
theorem Steady.withEditor (h : Steady w) {editor : Option Draft}
    (he : editor.any Draft.saving = w.editor.any Draft.saving) : Steady { w with editor } :=
  { h with saving := h.saving.trans he.symm }

theorem steady_takeFetch (h : Steady w) (r : Except String Document) : Steady (w.takeFetch r) := by
  cases r with
  | ok d => exact ⟨h.saving, nofun, nofun, Scene.coherent_build ..⟩
  | error e =>
    refine ⟨?_, fun _ _ => Scene.document_build .., nofun, Scene.coherent_build ..⟩
    have hsaving := h.saving
    show w.save.isSome = Option.any Draft.saving (if w.save.isNone then none else w.editor)
    cases hs : w.save with
    | none => rfl
    | some c => simpa [hs] using hsaving

theorem any_saving_of_savingName? {editor : Option Draft} (h : Scene.savingName? editor = none) :
    editor.any Draft.saving = false := by
  cases editor with
  | none => rfl
  | some d => simpa [Scene.savingName?] using h

/-- After the answer to a save no draft is being saved. -/
theorem steady_takeSave (h : Steady w) (r : Except String Document) : Steady (w.takeSave r) := by
  have hcoherent := Scene.coherent_step h.coherent (.finishSave w.editor r)
  cases r with
  | ok d =>
    refine ⟨?_, nofun, nofun, hcoherent⟩
    simp only [takeSave, Scene.finishSave, Option.isSome_none]
    split
    · rfl
    · next hname => exact (any_saving_of_savingName? hname).symm
  | error e =>
    refine ⟨?_, h.failed, h.loading, hcoherent⟩
    simp only [takeSave, Scene.finishSave, Option.isSome_none]
    cases w.editor with
    | none => rfl
    | some d =>
      rw [Option.map_some]
      split
      · rfl
      · next hd => exact (Bool.eq_false_iff.2 hd).symm

theorem any_saving_of_idleDraft? {d : Draft} (hd : w.idleDraft? = some d) :
    w.editor.any Draft.saving = false ∧ d.saving = false := by
  obtain ⟨he, hidle⟩ := Option.filter_eq_some_iff.1 hd
  have hsaving : d.saving = false := by simpa using hidle
  exact ⟨by rw [he]; exact hsaving, hsaving⟩

theorem steady_step (h : Steady w) (e : Event) : Steady (w.step e) := by
  have heffect := effect_step w e
  generalize w.step e = w' at heffect ⊢
  cases heffect with
  | takesFetch => exact steady_takeFetch h _
  | takesSave => exact steady_takeSave h _
  | ignores => exact h
  | fetches ha =>
    have hv := h.congr ha
    exact ⟨hv.saving, nofun, fun _ => rfl, hv.coherent⟩
  | opens hs hd =>
    apply h.withEditor
    rw [← h.saving, hs]
    exact hd
  | edits x =>
    apply h.withEditor
    cases w.editor with
    | none => rfl
    | some d => exact d.saving_apply x
  | sends => exact ⟨rfl, h.failed, h.loading, h.coherent⟩
  | notes hd message =>
    obtain ⟨hnone, hidle⟩ := any_saving_of_idleDraft? hd
    exact h.withEditor (hnone ▸ hidle)
  | closes hd => exact h.withEditor (any_saving_of_idleDraft? hd).1.symm
  | rests ha => exact h.congr ha

/-- The draft of a save that is under way. -/
theorem Steady.draft_of_save (h : Steady w) {c : SaveCall} (hc : w.save = some c) :
    ∃ d, w.editor = some d ∧ d.saving = true := by
  have hsaving := h.saving
  rw [hc] at hsaving
  exact (Option.any_eq_true ..).1 hsaving.symm

/-- A save ends with its answer. Before that no other is started, and its draft stays: it may
be edited, but not closed or replaced. -/
theorem save_step (h : Steady w) {c : SaveCall} (hc : w.save = some c) (e : Event) :
    (∃ r, e.saveAnswer? = some (c.number, r) ∧ w.step e = w.takeSave r) ∨
      (∀ r, e.saveAnswer? ≠ some (c.number, r)) ∧ (w.step e).save = some c ∧
        ∃ d d', w.editor = some d ∧ (w.step e).editor = some d' ∧ d'.saving = true ∧
          (d' = d ∨ ∃ x, e = .editDraft x ∧ d' = d.apply x) := by
  by_cases hanswer : ∃ r, e.saveAnswer? = some (c.number, r)
  · obtain ⟨r, he⟩ := hanswer
    have hstep : w.step e = w.saved c.number r := by
      cases e <;> cases he <;> rfl
    refine .inl ⟨r, he, ?_⟩
    rw [hstep, saved, hc]
    exact if_pos rfl
  · refine .inr ⟨fun r he => hanswer ⟨r, he⟩, ?_⟩
    obtain ⟨d, hd, hsaving⟩ := h.draft_of_save hc
    have hbusy : w.editor.any Draft.saving = true := by
      rw [hd]
      exact hsaving
    have heffect := effect_step w e
    generalize w.step e = w' at heffect ⊢
    cases heffect with
    | takesFetch =>
      refine ⟨?_, d, d, hd, ?_, hsaving, .inl rfl⟩
      · rw [save_takeFetch, hc]
      · rw [editor_takeFetch hc, hd]
    | takesSave he hc' =>
      cases hc.symm.trans hc'
      exact absurd ⟨_, he⟩ hanswer
    | ignores => exact ⟨hc, d, d, hd, hd, hsaving, .inl rfl⟩
    | fetches ha => exact ⟨ha.save.trans hc, d, d, hd, ha.editor.trans hd, hsaving, .inl rfl⟩
    | opens hs => cases hc.symm.trans hs
    | edits x =>
      refine ⟨hc, d, d.apply x, hd, ?_, (d.saving_apply x).trans hsaving, .inr ⟨x, rfl, rfl⟩⟩
      rw [hd]
      rfl
    -- What is being saved is not idle.
    | sends hidle => cases hbusy.symm.trans (any_saving_of_idleDraft? hidle).1
    | notes hidle => cases hbusy.symm.trans (any_saving_of_idleDraft? hidle).1
    | closes hidle => cases hbusy.symm.trans (any_saving_of_idleDraft? hidle).1
    | rests ha => exact ⟨ha.save.trans hc, d, d, hd, ha.editor.trans hd, hsaving, .inl rfl⟩

/-- The answer to a fetch is taken exactly if the fetch is waited for. -/
theorem fetchAnswer_step {e : Event} {number : Nat} {r : Except String Document}
    (he : e.fetchAnswer? = some (number, r)) :
    (∃ c, w.fetch = some c ∧ c.number = number ∧ w.step e = w.takeFetch r) ∨
      w.fetch.map FetchCall.number ≠ some number ∧ w.step e = w := by
  have hstep : w.step e = w.fetched number r := by
    cases e <;> cases he <;> rfl
  rw [hstep, fetched]
  cases hc : w.fetch with
  | none => exact .inr ⟨nofun, rfl⟩
  | some c =>
    by_cases hnumber : c.number = number
    · exact .inl ⟨c, rfl, hnumber, if_pos hnumber⟩
    · exact .inr ⟨by simpa using hnumber, if_neg hnumber⟩

/-- Without an answer the schema stays. -/
theorem document_step (w : Window) {e : Event} (hf : e.fetchAnswer? = none) (hs : e.saveAnswer? = none) :
    (w.step e).scene.document = w.scene.document := by
  have heffect := effect_step w e
  generalize w.step e = w' at heffect ⊢
  cases heffect with
  | takesFetch he => simp [hf] at he
  | takesSave he => simp [hs] at he
  | fetches ha => exact ha.document
  | rests ha => exact ha.document
  | _ => rfl

/-! ## The latest fetch -/

/-- What is there now and was not before. -/
def fresh? {α : Type} [DecidableEq α] (old new : Option α) : Option α := new.filter (old ≠ some ·)

theorem fresh?_self {α : Type} [DecidableEq α] (o : Option α) : fresh? o o = none := by
  refine Option.filter_eq_none_iff.2 fun a ha => ?_
  simp [ha]

theorem fresh?_eq_some {α : Type} [DecidableEq α] {old : Option α} {a : α} (h : old ≠ some a) :
    fresh? old (some a) = some a :=
  Option.filter_eq_some_iff.2 ⟨rfl, decide_eq_true h⟩

/-- The fetch that an event starts. -/
def startedFetch? (w : Window) (e : Event) : Option FetchCall := fresh? w.fetch (w.step e).fetch

/-- The fetches that events start, in order. -/
def startedFetches (w : Window) : List Event → List FetchCall
  | [] => []
  | e :: es => (w.startedFetch? e).toList ++ (w.step e).startedFetches es

/-- Of all fetches, only the latest is waited for. Their numbers grow. -/
structure AwaitsLatest (w : Window) (fs : List FetchCall) : Prop where
  latest : ∀ c, w.fetch = some c → fs.getLast? = some c
  known : ∀ c ∈ fs, c.number ≤ w.calls
  increasing : fs.Pairwise (·.number < ·.number)

/-- A fetch that is under way after an event was so before, or it is new and has the next
number. -/
theorem fetch_step (w : Window) (e : Event) :
    ((w.step e).fetch = w.fetch ∨ (w.step e).fetch = none) ∧ w.calls ≤ (w.step e).calls ∨
      ∃ c, (w.step e).fetch = some c ∧ c.number = w.calls + 1 ∧ (w.step e).calls = w.calls + 1 := by
  have heffect := effect_step w e
  generalize w.step e = w' at heffect ⊢
  cases heffect with
  | takesFetch => exact .inl ⟨.inr (fetch_takeFetch ..), by simp⟩
  | fetches ha => exact .inr ⟨_, rfl, congrArg (· + 1) ha.calls, congrArg (· + 1) ha.calls⟩
  | sends => exact .inl ⟨.inl rfl, Nat.le_succ _⟩
  | rests ha => exact .inl ⟨.inl ha.fetch, Nat.le_of_eq ha.calls.symm⟩
  | _ => exact .inl ⟨.inl rfl, Nat.le_refl _⟩

theorem startedFetch?_eq_none {e : Event} (h : (w.step e).fetch = w.fetch ∨ (w.step e).fetch = none) :
    w.startedFetch? e = none := by
  unfold startedFetch?
  rcases h with h | h
  · rw [h, fresh?_self]
  · rw [h]
    rfl

theorem awaitsLatest_step {fs : List FetchCall} (h : AwaitsLatest w fs) (e : Event) :
    AwaitsLatest (w.step e) (fs ++ (w.startedFetch? e).toList) := by
  rcases fetch_step w e with ⟨hfetch, hcalls⟩ | ⟨c, hc, hnumber, hcalls⟩
  · rw [startedFetch?_eq_none hfetch, Option.toList_none, List.append_nil]
    refine ⟨fun c hc => ?_, fun c hc => Nat.le_trans (h.known c hc) hcalls, h.increasing⟩
    rcases hfetch with hfetch | hfetch
    · exact h.latest c (hfetch ▸ hc)
    · cases hfetch.symm.trans hc
  · have hnew : ∀ b ∈ fs, b.number < c.number := by
      intro b hb
      have := h.known b hb
      omega
    have hsome : w.startedFetch? e = some c := by
      rw [startedFetch?, hc]
      refine fresh?_eq_some fun hold => ?_
      exact Nat.lt_irrefl _ (hnew c (List.mem_of_getLast? (h.latest c hold)))
    rw [hsome, Option.toList_some]
    refine ⟨fun b hb => ?_, fun b hb => ?_, ?_⟩
    · cases hc.symm.trans hb
      exact List.getLast?_concat
    · rcases List.mem_append.1 hb with hb | hb
      · have := h.known b hb
        omega
      · rw [List.mem_singleton.1 hb]
        omega
    · refine List.pairwise_append.2 ⟨h.increasing, List.pairwise_singleton .., fun b hb x hx => ?_⟩
      rw [List.mem_singleton.1 hx]
      exact hnew b hb

/-! ## Runs -/

/-- The window after events, in order. -/
def run (w : Window) (es : List Event) : Window := es.foldl step w

theorem run_keeps {fs : List FetchCall} (hs : Steady w) (ha : AwaitsLatest w fs) (es : List Event) :
    Steady (w.run es) ∧ AwaitsLatest (w.run es) (fs ++ w.startedFetches es) := by
  induction es generalizing w fs with
  | nil =>
    rw [startedFetches, List.append_nil]
    exact ⟨hs, ha⟩
  | cons e es ih =>
    have h := ih (steady_step hs e) (awaitsLatest_step ha e)
    rwa [List.append_assoc] at h

theorem awaitsLatest_new (place : Place) (files : Files) (server : Server) (settings : Settings)
    (entropy : Random.Entropy) :
    let first := new place files server settings entropy
    AwaitsLatest first first.fetch.toList := by
  intro first
  refine ⟨fun c hc => ?_, fun c hc => ?_, List.pairwise_singleton ..⟩
  · rw [hc]
    rfl
  · rw [List.mem_singleton.1 hc]
    exact Nat.le_refl 1

/-- Whatever happens to a window. A save is under way exactly while the draft is being saved:
until its answer is taken no other save is started, and the draft can be edited, but neither
closed nor replaced. A failed load leaves no schema and nothing drawn, and a load that has not
ended is waited for. Fetches have numbers of their own, and only the answer to the latest one is
taken; the others change nothing. The schema changes by answers alone. -/
theorem run_keeps_calls (place : Place) (files : Files) (server : Server) (settings : Settings)
    (entropy : Random.Entropy) (es : List Event) :
    let first := new place files server settings entropy
    let w := first.run es
    let fetches := first.fetch.toList ++ first.startedFetches es
    (w.save.isSome = true ↔ ∃ d, w.editor = some d ∧ d.saving = true) ∧
    (∀ c, w.save = some c → ∀ e,
      (∃ r, e.saveAnswer? = some (c.number, r) ∧ w.step e = w.takeSave r) ∨
      (∀ r, e.saveAnswer? ≠ some (c.number, r)) ∧ (w.step e).save = some c ∧
        ∃ d d', w.editor = some d ∧ (w.step e).editor = some d' ∧ d'.saving = true ∧
          (d' = d ∨ ∃ x, e = .editDraft x ∧ d' = d.apply x)) ∧
    (∀ reason, w.load = .failed reason →
      w.scene.document = .empty ∧ w.scene.arena.groups = [] ∧ w.scene.edges = []) ∧
    (w.load = .loading → w.fetch.isSome = true) ∧
    fetches.Pairwise (·.number < ·.number) ∧
    (∀ e number r, e.fetchAnswer? = some (number, r) →
      (∃ c, w.fetch = some c ∧ fetches.getLast? = some c ∧ c.number = number ∧ w.step e = w.takeFetch r) ∨
      w.fetch.map FetchCall.number ≠ some number ∧ w.step e = w) ∧
    ∀ e, e.fetchAnswer? = none → e.saveAnswer? = none → (w.step e).scene.document = w.scene.document := by
  intro first w fetches
  obtain ⟨hs, ha⟩ := run_keeps (steady_new place files server settings entropy)
    (awaitsLatest_new place files server settings entropy) es
  refine ⟨?_, fun c hc e => save_step hs hc e, fun reason hr => ?_, hs.loading, ha.increasing, ?_,
    fun e hf he => document_step w hf he⟩
  · rw [hs.saving]
    exact Option.any_eq_true ..
  · have hd := hs.failed reason hr
    exact ⟨hd, hs.coherent.empty hd⟩
  · intro e number r he
    rcases fetchAnswer_step (w := w) he with ⟨c, hc, hnumber, hstep⟩ | hstale
    · exact .inl ⟨c, hc, ha.latest c hc, hnumber, hstep⟩
    · exact .inr hstale

/-- While a save is under way two fetches cross: the answer to the first of them is passed
over, the second is lost. The draft outlives all attempts to replace it, until its save is
answered. -/
theorem run_keeps_calls_crossing :
    let shop : Document := ⟨.ofList [("users", ⟨[⟨"id", "INT", true⟩], []⟩)], [], 1⟩
    let first := new ⟨{}, "/tmp"⟩ {} {} { particleCount := 0 } (.ofSeed 7)
    let es : List Event := [.fetched 1 (.ok shop), .openEditor "users", .editDraft (.setName "people"), .saveDraft,
      .reload, .reload, .fetched 3 (.ok shop), .saveDraft, .openEditor "users", .closeDraft, .fetchLost 4]
    let w := first.run es
    w.save.map SaveCall.number = some 2 ∧ w.load = .failed "schema fetch worker exited" ∧
      (∃ d, w.editor = some d ∧ d.saving = true) ∧ w.scene.arena.groups = [] ∧
      ∀ r, (w.step (.saved 2 r)).save = none := by
  intro shop first es w
  have hsave : w.save.map SaveCall.number = some 2 := by decide +kernel
  have hload : w.load = .failed "schema fetch worker exited" := by decide +kernel
  have hw : first.run es = w := rfl
  have hkeeps := run_keeps_calls ⟨{}, "/tmp"⟩ {} {} { particleCount := 0 } (.ofSeed 7) es
  -- The window need not be computed any further.
  clear_value w
  simp only [first] at hw
  simp only [hw] at hkeeps
  obtain ⟨hsaving, hdraft, hfailed, -⟩ := hkeeps
  obtain ⟨c, hc, hnumber⟩ := Option.map_eq_some_iff.1 hsave
  have hsome : w.save.isSome = true := by rw [hc]; rfl
  refine ⟨hsave, hload, hsaving.1 hsome, (hfailed _ hload).2.1, fun r => ?_⟩
  rcases hdraft c hc (.saved 2 r) with ⟨r', -, hstep⟩ | ⟨hnone, -⟩
  · rw [hstep]
    rfl
  · exact absurd (by rw [hnumber]; rfl) (hnone (r.mapError SaveError.message))

end SchemaAtlas.Window
