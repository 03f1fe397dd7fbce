import SchemaAtlas.Proofs.Panel.Polls
/-!
# What a closed panel looks like

Closing a panel puts its call bar and its microphone back, opening it leaves them alone, and the call
button takes them out whether the panel is open or not. So it is the call under way (`call?`) that a
closed panel shows in the end: none, if nobody called since the panel was closed, and then it is fully
closed (`closed_rests_iff`). A click on the call button while the panel disappears comes after that,
and nothing takes it back (`call_outlives_closing`).
-/

namespace SchemaAtlas.Panel

/-- The call under way after events that begin with the timings `t` and the call `c`, given by how far
it moved the call bar. Opening and closing the panel end it. -/
def call? (t : Timings) (c : Option Float32) : List Event → Option Float32
  | [] => c
  | .toggle _ :: es => call? t none es
  | .engage _ :: es => call? t (some t.callBarShift) es
  | .setTimings t :: es => call? t c es
  | .startGlow :: es => call? t c es
  | .stopGlow :: es => call? t c es
  | .advance _ :: es => call? t c es

/-- The panel shows a call: the call bar stands aside, and the microphone is up or comes up. Without a
call, a closed panel has its call bar at its place, and the microphone is not up and does not come up. -/
structure Shows (c : Option Float32) (p : Panel) : Prop where
  call : ∀ shift, c = some shift → p.callBarOffset = shift ∧
    (p.microphone.contains (mark true) = true ∨
      ∃ d ∈ p.pending, d.element = .microphone ∧ d.name = mark true)
  rest : c = none → p.isOpen = false → p.callBarOffset = 0 ∧
    p.microphone.contains (mark true) = false ∧
    ∀ d ∈ p.pending, d.element = .microphone → d.name ≠ mark true

variable {c : Option Float32} {p q : Panel}

theorem shows_start (t : Timings) : Shows none { timings := t } :=
  ⟨nofun, fun _ _ => ⟨rfl, rfl, by simp⟩⟩

/-- Nothing but the flag, the call bar, the microphone and what waits matters. -/
theorem Shows.congr (h : Shows c p) (ho : q.isOpen = p.isOpen) (hb : q.callBarOffset = p.callBarOffset)
    (hm : q.microphone = p.microphone) (hp : q.pending = p.pending) : Shows c q := by
  constructor
  · intro shift hc
    rw [hb, hm, hp]
    exact h.call shift hc
  · intro hc hopen
    rw [hb, hm, hp]
    exact h.rest hc (ho ▸ hopen)

/-- Closing puts everything back, and an open panel shows anything. -/
theorem shows_toggle (p : Panel) (now : Nat) : Shows none (p.toggle now) := by
  refine ⟨nofun, fun _ hclosed => ?_⟩
  rw [toggle_eq] at hclosed ⊢
  dsimp only at hclosed ⊢
  cases hopen : p.isOpen with
  | false =>
    rw [hopen] at hclosed
    exact absurd hclosed (by simp [turn, removeClass, schedule])
  | true =>
    rw [if_pos rfl]
    refine ⟨rfl, ?_, fun d hd he => ?_⟩
    · change (ClassList.remove _ (mark true)).contains (mark true) = false
      simp
    · rcases mem_pending_turn.1 hd with ⟨-, hne⟩ | rfl
      · exact absurd he hne
      · exact (mark_inj (a := false) (b := true)).not.2 Bool.false_ne_true

/-- The call button starts a call in any case. -/
theorem shows_engage (p : Panel) (now : Nat) : Shows (some p.timings.callBarShift) (p.engage now) := by
  refine ⟨fun shift hc => ?_, nofun⟩
  obtain rfl := Option.some.inj hc
  rw [engage_eq]
  exact ⟨rfl, .inr ⟨_, mem_pending_turn.2 (.inr rfl), rfl, rfl⟩⟩

/-- What waited for the microphone has come up, or waits still. -/
theorem shows_advance (h : Shows c p) (now : Nat) : Shows c (p.advance now).1 := by
  have hmem : ∀ d, d ∈ (p.advance now).1.pending ↔ d ∈ p.pending ∧ ¬ d.due ≤ now := by
    simp [pending_advance]
  refine ⟨fun shift hc => ?_, fun hc hclosed => ?_⟩
  · obtain ⟨hshift, hmicrophone⟩ := h.call shift hc
    refine ⟨(advance_frame p now).2.trans hshift, ?_⟩
    rcases hmicrophone with hup | ⟨d, hd, he, hn⟩
    · exact .inl ((contains_advance (e := .microphone)).2 (.inl hup))
    · by_cases hdue : d.due ≤ now
      · exact .inl ((contains_advance (e := .microphone)).2 (.inr ⟨d, hd, hdue, he, hn⟩))
      · exact .inr ⟨d, (hmem d).2 ⟨hd, hdue⟩, he, hn⟩
  · rw [isOpen_advance] at hclosed
    obtain ⟨hbar, hdown, hwait⟩ := h.rest hc hclosed
    refine ⟨(advance_frame p now).2.trans hbar, Bool.eq_false_iff.2 fun hup => ?_,
      fun d hd => hwait d ((hmem d).1 hd).1⟩
    rcases (contains_advance (e := .microphone)).1 hup with hup | ⟨d, hd, -, he, hn⟩
    · exact absurd (hdown.symm.trans hup) (by decide)
    · exact hwait d hd he hn

/-- A panel shows the call under way. -/
theorem shows_run (h : Shows c p) (es : List Event) : Shows (call? p.timings c es) (p.run es) := by
  induction es generalizing p c with
  | nil => exact h
  | cons e es ih =>
    cases e with
    | toggle now =>
      have ht : (p.toggle now).timings = p.timings := by
        unfold toggle
        cases p.isOpen <;> rfl
      have hrun := ih (shows_toggle p now)
      rwa [ht] at hrun
    | engage now => exact ih (shows_engage p now)
    | advance now =>
      have hrun := ih (shows_advance h now)
      rwa [(advance_frame p now).1] at hrun
    | startGlow => exact ih (p := p.startGlow) (h.congr rfl rfl rfl rfl)
    | stopGlow => exact ih (p := p.stopGlow) (h.congr rfl rfl rfl rfl)
    | setTimings t => exact ih (p := p.setTimings t) (h.congr rfl rfl rfl rfl)

/-- A panel that is closed and has nothing to wait for is fully closed, with its call bar at its place
and the microphone not open, exactly if no call is under way. Under a call the microphone is open, and
the call bar stands aside as far as that call moved it. -/
theorem closed_rests_iff (t : Timings) (es : List Event) (hclosed : (run { timings := t } es).isOpen = false)
    (hnone : (run { timings := t } es).pending = []) :
    let p := run { timings := t } es
    ((p.classes .microphone).contains "open" = false ∧ p.callBarOffset = 0 ↔ call? t none es = none) ∧
      ∀ shift, call? t none es = some shift →
        (p.classes .microphone).contains "open" = true ∧ p.callBarOffset = shift := by
  intro p
  have hshows : Shows (call? t none es) p := shows_run (shows_start t) es
  have hcall : ∀ shift, call? t none es = some shift →
      (p.classes .microphone).contains "open" = true ∧ p.callBarOffset = shift := by
    intro shift hc
    obtain ⟨hbar, hup | ⟨d, hd, -⟩⟩ := hshows.call shift hc
    · exact ⟨hup, hbar⟩
    · rw [show p.pending = [] from hnone] at hd
      cases hd
  refine ⟨⟨fun ⟨hdown, _⟩ => ?_, fun hc => ?_⟩, hcall⟩
  · cases hc : call? t none es with
    | none => rfl
    | some shift => exact absurd (hdown.symm.trans (hcall shift hc).1) (by decide)
  · obtain ⟨hbar, hdown, -⟩ := hshows.rest hc hclosed
    exact ⟨hdown, hbar⟩

/-- A call, a closing that takes it back, and a call from before the panel was opened again, which the
second closing takes back. -/
theorem closed_rests_iff_called_before :
    let es : List Event := [.toggle 0, .engage 5, .advance 20, .toggle 30, .engage 40, .advance 60, .toggle 70,
      .setTimings { openDelay := 1, closeDelay := 2, callBarShift := 8 }, .toggle 80, .advance 90]
    let p := run {} es
    p.isOpen = false ∧ p.pending = [] ∧ call? {} none es = none ∧
      (p.classes .microphone).contains "open" = false ∧ p.callBarOffset = 0 := by
  intro es p
  have hclosed : p.isOpen = false := by dsimp only [p, es]; cbv
  have hnone : p.pending = [] := by dsimp only [p, es]; cbv
  have hcall : call? {} none es = none := rfl
  exact ⟨hclosed, hnone, hcall, (closed_rests_iff {} es hclosed hnone).1.2 hcall⟩

/-- The panel is opened and closed again, and the call button is clicked while it disappears. It ends
closed, with nothing to wait for, and with the microphone open and the call bar aside. -/
theorem call_outlives_closing :
    let p := run {} [.toggle 0, .advance 10, .toggle 1000, .engage 1100, .advance 2000]
    p.isOpen = false ∧ p.pending = [] ∧ (p.classes .microphone).contains "open" = true ∧
      p.callBarOffset = 20 ∧ p.callBarOffset ≠ 0 := by
  intro p
  have haside : p.callBarOffset = 20 := by dsimp only [p]; cbv
  have hup : (p.classes .microphone).contains "open" = true := by dsimp only [p]; cbv
  refine ⟨by dsimp only [p]; cbv, by dsimp only [p]; cbv, hup, haside, ?_⟩
  rw [haside]
  decide +kernel

end SchemaAtlas.Panel
