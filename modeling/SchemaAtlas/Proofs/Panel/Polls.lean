import Mathlib.Data.List.Permutation
import Mathlib.Data.List.Sort
import Mathlib.Data.String.Basic
import SchemaAtlas.Proofs.Panel.Runs
/-!
# When a panel is polled does not matter

A panel carries out what it deferred when it is polled, once in a frame. A poll comes before or
after the event that would have replaced the change, so two panels that live through the same events
may differ for a while. The one that is polled more often is ahead (`Ahead`): it has all classes of
the other one, and those that it has besides are still deferred there. Every event keeps this, since
a turn takes back exactly what the change it replaces may have done (`ahead_turn`). When nothing is
deferred any more, the two are the same (`Ahead.eq_of_settled`).
-/

namespace SchemaAtlas

/-! ## Class lists in order -/

namespace ClassList

/-- The names are in order, each of them once. -/
def Ordered (c : ClassList) : Prop := c.names.Pairwise (· < ·)

theorem ordered_insertName {name : String} {ns : List String} (h : ns.Pairwise (· < ·)) :
    (insertName name ns).Pairwise (· < ·) := by
  induction ns with
  | nil => simp [insertName]
  | cons n ns ih =>
    obtain ⟨hn, hns⟩ := List.pairwise_cons.1 h
    unfold insertName
    split
    · next hlt =>
      refine List.pairwise_cons.2 ⟨fun m hm => ?_, h⟩
      rcases List.mem_cons.1 hm with rfl | hm
      · exact hlt
      · exact hlt.trans (hn m hm)
    · split
      · exact h
      · next hnlt hne =>
        refine List.pairwise_cons.2 ⟨fun m hm => ?_, ih hns⟩
        rcases mem_insertName.1 hm with rfl | hm
        · exact lt_of_le_of_ne (not_lt.1 hnlt) (Ne.symm hne)
        · exact hn m hm

theorem Ordered.add {c : ClassList} (h : c.Ordered) (name : String) : (c.add name).Ordered :=
  ordered_insertName h

theorem Ordered.remove {c : ClassList} (h : c.Ordered) (name : String) : (c.remove name).Ordered :=
  h.sublist List.filter_sublist

theorem Ordered.toggle {c : ClassList} (h : c.Ordered) (name : String) : (c.toggle name).Ordered := by
  unfold ClassList.toggle
  split
  · exact h.remove name
  · exact h.add name

/-- Class lists with the same classes are the same. -/
theorem Ordered.ext {c d : ClassList} (hc : c.Ordered) (hd : d.Ordered)
    (h : ∀ n, c.contains n = true ↔ d.contains n = true) : c = d := by
  have hnames : c.names = d.names := hc.eq_of_mem_iff hd fun n => by simpa [contains] using h n
  cases c
  cases d
  exact congrArg ClassList.mk hnames

end ClassList

namespace Panel

/-- All class lists of a panel are in order. -/
structure Tidy (p : Panel) : Prop where
  button : p.button.Ordered
  panel : p.panel.Ordered
  callBar : p.callBar.Ordered
  microphone : p.microphone.Ordered

theorem tidy_start (t : Timings) : Tidy { timings := t } :=
  ⟨.nil, .nil, .nil, .nil⟩

theorem Tidy.classes {p : Panel} (h : Tidy p) (e : Element) : (p.classes e).Ordered := by
  cases e
  · exact h.button
  · exact h.panel
  · exact h.callBar
  · exact h.microphone

theorem tidy_addClass {p : Panel} (h : Tidy p) (e : Element) (name : String) : Tidy (p.addClass e name) := by
  cases e
  · exact { h with button := h.button.add name }
  · exact { h with panel := h.panel.add name }
  · exact { h with callBar := h.callBar.add name }
  · exact { h with microphone := h.microphone.add name }

theorem tidy_turn {p : Panel} (h : Tidy p) (e : Element) (look : Bool) (due : Nat) : Tidy (p.turn e look due) := by
  cases e
  · exact { h with button := h.button.remove _ }
  · exact { h with panel := h.panel.remove _ }
  · exact { h with callBar := h.callBar.remove _ }
  · exact { h with microphone := h.microphone.remove _ }

theorem tidy_advance {p : Panel} (h : Tidy p) (now : Nat) : Tidy (p.advance now).1 := by
  have hfold : ∀ (ds : List Deferred) (q : Panel), Tidy q →
      Tidy (ds.foldl (fun p d => p.addClass d.element d.name) q) := by
    intro ds
    induction ds with
    | nil => exact fun q hq => hq
    | cons d ds ih => exact fun q hq => ih _ (tidy_addClass hq d.element d.name)
  exact hfold _ _ { h with }

theorem tidy_act {p : Panel} (h : Tidy p) (e : Event) : Tidy (p.act e) := by
  cases e with
  | toggle now =>
    rw [act, toggle_eq]
    dsimp only
    split
    · apply tidy_turn
      apply tidy_turn
      exact { h with button := h.button.toggle _ }
    · apply tidy_turn
      exact { h with button := h.button.toggle _ }
  | engage now =>
    rw [act, engage_eq]
    apply tidy_turn
    exact { h with }
  | startGlow => exact { h with panel := h.panel.add _ }
  | stopGlow => exact { h with panel := h.panel.remove _ }
  | setTimings t => exact { h with }
  | advance now => exact tidy_advance h now

theorem tidy_run {p : Panel} (h : Tidy p) (es : List Event) : Tidy (p.run es) := by
  induction es generalizing p with
  | nil => exact h
  | cons e es ih => exact ih (tidy_act h e)

/-! ## Polls -/

/-- A poll changes classes and what is deferred, and nothing else. -/
theorem advance_frame (p : Panel) (now : Nat) :
    (p.advance now).1.timings = p.timings ∧ (p.advance now).1.callBarOffset = p.callBarOffset := by
  have hfold : ∀ (ds : List Deferred) (q : Panel),
      let r := ds.foldl (fun p d => p.addClass d.element d.name) q
      r.timings = q.timings ∧ r.callBarOffset = q.callBarOffset := by
    intro ds
    induction ds with
    | nil => exact fun q => ⟨rfl, rfl⟩
    | cons d ds ih =>
      intro q
      have hd : (q.addClass d.element d.name).timings = q.timings ∧
          (q.addClass d.element d.name).callBarOffset = q.callBarOffset := by
        cases d.element <;> exact ⟨rfl, rfl⟩
      exact ⟨(ih _).1.trans hd.1, (ih _).2.trans hd.2⟩
  exact hfold _ _

/-- Panels with the same classes, flag, offset, timings and deferred changes are the same. -/
theorem Tidy.ext {p q : Panel} (hp : Tidy p) (hq : Tidy q) (ht : p.timings = q.timings) (ho : p.isOpen = q.isOpen)
    (hc : ∀ e n, (p.classes e).contains n = true ↔ (q.classes e).contains n = true)
    (hoff : p.callBarOffset = q.callBarOffset) (hpend : p.pending = q.pending) : p = q := by
  have hclasses : ∀ e, p.classes e = q.classes e := fun e => (hp.classes e).ext (hq.classes e) (hc e)
  have hbutton := hclasses .button
  have hpanel := hclasses .panel
  have hbar := hclasses .callBar
  have hmicrophone := hclasses .microphone
  cases p
  cases q
  simp only [Panel.classes] at hbutton hpanel hbar hmicrophone
  simp_all

/-- Two polls do what the later one does. -/
theorem advance_advance {p : Panel} (h : Tidy p) (t u : Nat) :
    ((p.advance t).1.advance u).1 = (p.advance (max t u)).1 := by
  have hmem : ∀ d, d ∈ (p.advance t).1.pending ↔ d ∈ p.pending ∧ ¬ d.due ≤ t := by simp [pending_advance]
  refine (tidy_advance (tidy_advance h t) u).ext (tidy_advance h _) ?_ ?_ (fun e n => ?_) ?_ ?_
  · simp only [(advance_frame _ _).1]
  · simp only [isOpen_advance]
  · rw [contains_advance, contains_advance, contains_advance]
    constructor
    · rintro ((hn | ⟨d, hd, hdue, he, hn⟩) | ⟨d, hd, hdue, he, hn⟩)
      · exact .inl hn
      · exact .inr ⟨d, hd, le_max_of_le_left hdue, he, hn⟩
      · exact .inr ⟨d, ((hmem d).1 hd).1, le_max_of_le_right hdue, he, hn⟩
    · rintro (hn | ⟨d, hd, hdue, he, hn⟩)
      · exact .inl (.inl hn)
      · by_cases ht : d.due ≤ t
        · exact .inl (.inr ⟨d, hd, ht, he, hn⟩)
        · exact .inr ⟨d, (hmem d).2 ⟨hd, ht⟩, (le_max_iff.1 hdue).resolve_left ht, he, hn⟩
  · simp only [(advance_frame _ _).2]
  · rw [pending_advance, pending_advance, pending_advance, List.filter_filter]
    refine List.filter_congr fun d _ => ?_
    simp only [le_max_iff, Bool.decide_or, Bool.not_or]
    exact Bool.and_comm ..

/-- Whether something is due by some time is a matter of the next deadline. -/
theorem nextDeadline_le_iff {p : Panel} {now : Nat} :
    (∃ t, p.nextDeadline = some t ∧ t ≤ now) ↔ ∃ d ∈ p.pending, d.due ≤ now := by
  constructor
  · rintro ⟨t, ht, hle⟩
    obtain ⟨d, hd, rfl⟩ := List.mem_map.1 (List.min?_mem ht)
    exact ⟨d, hd, hle⟩
  · rintro ⟨d, hd, hle⟩
    have hmem : d.due ∈ p.pending.map Deferred.due := List.mem_map_of_mem hd
    obtain ⟨t, ht⟩ := List.isSome_min?_of_mem hmem |> Option.isSome_iff_exists.1
    exact ⟨t, ht, ((List.le_min?_iff ht).1 le_rfl _ hmem).trans hle⟩

/-- A poll leaves the panel as it is exactly if nothing is due. -/
theorem advance_eq_self_iff {p : Panel} {now : Nat} :
    (p.advance now).1 = p ↔ ¬ ∃ d ∈ p.pending, d.due ≤ now := by
  constructor
  · rintro h ⟨d, hd, hdue⟩
    rw [← h, pending_advance] at hd
    simp [hdue] at hd
  · intro h
    have hnone : p.pending.filter (·.due ≤ now) = [] := List.filter_eq_nil_iff.2 fun d hd => by
      simpa using fun hle => h ⟨d, hd, hle⟩
    have hall : p.pending.filter (!·.due ≤ now) = p.pending := List.filter_eq_self.2 fun d hd => by
      simpa using fun hle => h ⟨d, hd, hle⟩
    rw [advance, hnone, hall, List.mergeSort_nil]
    rfl

/-- A poll says whether anything was due. -/
theorem advance_eq_false_iff {p : Panel} {now : Nat} :
    (p.advance now).2 = false ↔ ¬ ∃ d ∈ p.pending, d.due ≤ now := by
  have hnil : ((p.pending.filter (·.due ≤ now)).mergeSort (·.due ≤ ·.due)).isEmpty = true ↔
      p.pending.filter (·.due ≤ now) = [] := by
    rw [List.isEmpty_iff_length_eq_zero, List.length_mergeSort, List.length_eq_zero_iff]
  simp only [advance, Bool.not_eq_false', hnil, List.filter_eq_nil_iff, decide_eq_true_eq, not_exists, not_and]

/-! ## A panel that is polled more often -/

/-- The panel `q` has lived through the events of `p` and is ahead: some of what `p` still defers
has come already. -/
structure Ahead (p q : Panel) : Prop where
  timings : q.timings = p.timings
  isOpen : q.isOpen = p.isOpen
  offset : q.callBarOffset = p.callBarOffset
  /-- What `q` defers, `p` defers as well. -/
  deferred : ∀ d ∈ q.pending, d ∈ p.pending
  /-- What `p` defers has come, or `q` defers it too. -/
  come : ∀ d ∈ p.pending, d ∈ q.pending ∨ (q.classes d.element).contains d.name = true
  kept : ∀ e n, (p.classes e).contains n = true → (q.classes e).contains n = true
  early : ∀ e n, (q.classes e).contains n = true →
    (p.classes e).contains n = true ∨ ∃ d ∈ p.pending, d.element = e ∧ d.name = n

theorem ahead_refl (p : Panel) : Ahead p p :=
  ⟨rfl, rfl, rfl, fun _ => id, fun _ => .inl, fun _ _ => id, fun _ _ => .inl⟩

variable {p q : Panel}

/-- A poll takes the panel further ahead. -/
theorem ahead_advance (h : Ahead p q) (now : Nat) : Ahead p (q.advance now).1 := by
  have hmem : ∀ d, d ∈ (q.advance now).1.pending ↔ d ∈ q.pending ∧ ¬ d.due ≤ now := by
    simp [pending_advance]
  refine ⟨(advance_frame q now).1.trans h.timings, (isOpen_advance q now).trans h.isOpen,
    (advance_frame q now).2.trans h.offset, fun d hd => h.deferred d ((hmem d).1 hd).1, fun d hd => ?_,
    fun e n hn => contains_advance.2 (.inl (h.kept e n hn)), fun e n hn => ?_⟩
  · rcases h.come d hd with hd | hn
    · by_cases hdue : d.due ≤ now
      · exact .inr (contains_advance.2 (.inr ⟨d, hd, hdue, rfl, rfl⟩))
      · exact .inl ((hmem d).2 ⟨hd, hdue⟩)
    · exact .inr (contains_advance.2 (.inl hn))
  · rcases contains_advance.1 hn with hn | ⟨d, hd, -, he, hn⟩
    · exact h.early e n hn
    · exact .inr ⟨d, h.deferred d hd, he, hn⟩

/-- Only the panel and the microphone can be ahead. -/
theorem Ahead.contains_eq (h : Ahead p q) (ho : Orderly p) {e : Element} (he : e ≠ .panel ∧ e ≠ .microphone)
    (n : String) : (q.classes e).contains n = (p.classes e).contains n := by
  rw [Bool.eq_iff_iff]
  refine ⟨fun hn => (h.early e n hn).resolve_right ?_, h.kept e n⟩
  rintro ⟨d, hd, rfl, -⟩
  exact (ho.movable d hd).elim he.1 he.2

/-- Both panels turn an element. What the one may have got early goes, or is deferred again. -/
theorem ahead_turn (h : Ahead p q) (ho : Orderly p) (e : Element) (look : Bool) (due : Nat) :
    Ahead (p.turn e look due) (q.turn e look due) := by
  have hframe : ∀ r : Panel, (r.turn e look due).timings = r.timings ∧ (r.turn e look due).isOpen = r.isOpen ∧
      (r.turn e look due).callBarOffset = r.callBarOffset := fun r => by cases e <;> exact ⟨rfl, rfl, rfl⟩
  refine ⟨?_, ?_, ?_, fun d hd => ?_, fun d hd => ?_, fun f n hn => ?_, fun f n hn => ?_⟩
  · rw [(hframe p).1, (hframe q).1, h.timings]
  · rw [(hframe p).2.1, (hframe q).2.1, h.isOpen]
  · rw [(hframe p).2.2, (hframe q).2.2, h.offset]
  · rw [mem_pending_turn] at hd ⊢
    exact hd.imp_left (And.imp_left (h.deferred d))
  · rcases mem_pending_turn.1 hd with ⟨hd, hne⟩ | rfl
    · rw [classes_turn, if_neg hne]
      exact (h.come d hd).imp_left fun hq => mem_pending_turn.2 (.inl ⟨hq, hne⟩)
    · exact .inl (mem_pending_turn.2 (.inr rfl))
  · by_cases hf : f = e
    · rw [classes_turn, if_pos hf, ClassList.contains_remove, Bool.and_eq_true] at hn ⊢
      exact ⟨hn.1, h.kept f n hn.2⟩
    · rw [classes_turn, if_neg hf] at hn ⊢
      exact h.kept f n hn
  · by_cases hf : f = e
    · rw [classes_turn, if_pos hf, ClassList.contains_remove, Bool.and_eq_true] at hn ⊢
      rcases h.early f n hn.2 with hp | ⟨d, hd, rfl, rfl⟩
      · exact .inl ⟨hn.1, hp⟩
      · -- The change that is replaced has one of the two classes, and it is not the one that goes.
        obtain ⟨look', hname, -⟩ := ho.ready d hd
        have hlook : look' = look := by
          have hne : mark look' ≠ mark !look := by simpa [hname] using hn.1
          rw [Ne, mark_inj] at hne
          cases look <;> cases look' <;> simp_all
        exact .inr ⟨_, mem_pending_turn.2 (.inr rfl), hf.symm, by rw [hname, hlook]⟩
    · rw [classes_turn, if_neg hf] at hn ⊢
      refine (h.early f n hn).imp_right ?_
      rintro ⟨d, hd, rfl, rfl⟩
      exact ⟨d, mem_pending_turn.2 (.inl ⟨hd, hf⟩), rfl, rfl⟩

/-- Both panels change in the same way what no deferred change is about. -/
theorem Ahead.congr {p' q' : Panel} (h : Ahead p q) (ht : q'.timings = p'.timings) (ho : q'.isOpen = p'.isOpen)
    (hoff : q'.callBarOffset = p'.callBarOffset) (hp : p'.pending = p.pending) (hq : q'.pending = q.pending)
    (hc : ∀ e n, ((p'.classes e).contains n = (p.classes e).contains n ∧
        (q'.classes e).contains n = (q.classes e).contains n) ∨
      ((q'.classes e).contains n = (p'.classes e).contains n ∧ ∀ d ∈ p.pending, ¬ (d.element = e ∧ d.name = n))) :
    Ahead p' q' := by
  refine ⟨ht, ho, hoff, ?_, fun d hd => ?_, fun e n hn => ?_, fun e n hn => ?_⟩
  · rw [hp, hq]
    exact h.deferred
  · rw [hp] at hd
    rw [hq]
    rcases hc d.element d.name with ⟨-, hsame⟩ | ⟨-, hnone⟩
    · rw [hsame]
      exact h.come d hd
    · exact absurd ⟨rfl, rfl⟩ (hnone d hd)
  · rcases hc e n with ⟨hpn, hqn⟩ | ⟨hsame, -⟩
    · rw [hqn]
      exact h.kept e n (hpn ▸ hn)
    · rwa [hsame]
  · rw [hp]
    rcases hc e n with ⟨hpn, hqn⟩ | ⟨hsame, -⟩
    · rw [hpn]
      exact h.early e n (hqn ▸ hn)
    · exact .inl (hsame ▸ hn)

theorem ahead_toggle (h : Ahead p q) (ho : Orderly p) (now : Nat) : Ahead (p.toggle now) (q.toggle now) := by
  have hpressed : ∀ a b, b = a → Ahead
      { p with isOpen := !p.isOpen, button := p.button.toggle "active", callBarOffset := a }
      { q with isOpen := !q.isOpen, button := q.button.toggle "active", callBarOffset := b } := by
    intro a b hab
    refine h.congr h.timings (by simp [h.isOpen]) hab rfl rfl fun e n => ?_
    cases e with
    | button =>
      have hsame := h.contains_eq ho (e := .button) (by decide) n
      refine .inr ⟨?_, fun d hd he => ?_⟩
      · simp only [classes, ClassList.contains_toggle] at hsame ⊢
        rw [hsame]
      · have hmovable := ho.movable d hd
        simp [he.1] at hmovable
    | _ => exact .inl ⟨rfl, rfl⟩
  have hclose : now + q.timings.closeDelay = now + p.timings.closeDelay := by rw [h.timings]
  have hopen : now + q.timings.openDelay = now + p.timings.openDelay := by rw [h.timings]
  rw [toggle_eq, toggle_eq, hclose, hopen]
  dsimp only
  by_cases hflag : p.isOpen = true
  · rw [if_pos hflag, if_pos (h.isOpen.trans hflag)]
    have hpanel := ahead_turn (hpressed 0 0 rfl) (orderly_pressed ho 0) .panel false (now + p.timings.closeDelay)
    exact ahead_turn hpanel (orderly_turn (orderly_pressed ho 0) (.inl rfl) _ _) _ _ _
  · rw [if_neg hflag, if_neg (h.isOpen ▸ hflag)]
    exact ahead_turn (hpressed p.callBarOffset q.callBarOffset h.offset) (orderly_pressed ho _) _ _ _

theorem ahead_engage (h : Ahead p q) (ho : Orderly p) (now : Nat) : Ahead (p.engage now) (q.engage now) := by
  have hoffset : Ahead { p with callBarOffset := p.timings.callBarShift }
      { q with callBarOffset := q.timings.callBarShift } :=
    h.congr h.timings h.isOpen (by rw [h.timings]) rfl rfl fun e n => .inl (by cases e <;> exact ⟨rfl, rfl⟩)
  have horderly : Orderly { p with callBarOffset := p.timings.callBarShift } :=
    ho.congr rfl fun e _ => by cases e <;> rfl
  have hdue : now + q.timings.openDelay = now + p.timings.openDelay := by rw [h.timings]
  rw [engage_eq, engage_eq, hdue]
  exact ahead_turn hoffset horderly _ _ _

/-- A glow is never deferred. -/
theorem ahead_glow (h : Ahead p q) (ho : Orderly p) (f : ClassList → ClassList) (glow : Bool)
    (hf : ∀ c n, (f c).contains n = if n = "glow-effect" then glow else c.contains n) :
    Ahead { p with panel := f p.panel } { q with panel := f q.panel } := by
  refine h.congr h.timings h.isOpen h.offset rfl rfl fun e n => ?_
  cases e with
  | panel =>
    by_cases hn : n = "glow-effect"
    · refine .inr ⟨by simp [classes, hf, hn], fun d hd he => ?_⟩
      obtain ⟨look, hname, -⟩ := ho.ready d hd
      rw [← he.2, hname] at hn
      cases look <;> exact absurd hn (by decide)
    · exact .inl (by simp [classes, hf, hn])
  | _ => exact .inl ⟨rfl, rfl⟩

/-- Whether an event is a poll. -/
def Event.isPoll : Event → Bool
  | .advance _ => true
  | _ => false

/-- Every other event keeps the one panel ahead of the other. -/
theorem ahead_act (h : Ahead p q) (ho : Orderly p) {e : Event} (he : e.isPoll = false) : Ahead (p.act e) (q.act e) := by
  cases e with
  | toggle now => exact ahead_toggle h ho now
  | engage now => exact ahead_engage h ho now
  | startGlow =>
    refine ahead_glow h ho (·.add "glow-effect") true fun c n => ?_
    by_cases hn : n = "glow-effect" <;> simp [hn]
  | stopGlow =>
    refine ahead_glow h ho (·.remove "glow-effect") false fun c n => ?_
    by_cases hn : n = "glow-effect" <;> simp [hn]
  | setTimings t =>
    exact h.congr rfl h.isOpen h.offset rfl rfl fun e n => .inl (by cases e <;> exact ⟨rfl, rfl⟩)
  | advance now => cases he

/-- The panel that is polled is ahead of the one that lives through the other events only. -/
theorem ahead_run {toggled : Prop} (h : Ahead p q) (ho : Orderly p) (hf : Follows toggled p) (es : List Event) :
    Ahead (p.run (es.filter (!·.isPoll))) (q.run es) := by
  induction es generalizing p q toggled with
  | nil => exact h
  | cons e es ih =>
    cases he : e.isPoll with
    | true =>
      rw [List.filter_cons_of_neg (by simp [he])]
      cases e with
      | advance now => exact ih (ahead_advance h now) ho hf
      | _ => cases he
    | false =>
      rw [List.filter_cons_of_pos (by simp [he])]
      obtain ⟨ho', hf'⟩ := act_keeps ho hf e
      exact ih (ahead_act h ho he) ho' hf'

/-- Where nothing is deferred any more, being ahead makes no difference. -/
theorem Ahead.eq_of_settled (h : Ahead p q) (hp : Tidy p) (hq : Tidy q) {now : Nat}
    (hnone : (p.advance now).1.pending = []) : (q.advance now).1 = (p.advance now).1 := by
  have hdue : ∀ d ∈ p.pending, d.due ≤ now := by
    rw [pending_advance, List.filter_eq_nil_iff] at hnone
    simpa using hnone
  refine (tidy_advance hq now).ext (tidy_advance hp now) ?_ ?_ (fun e n => ?_) ?_ ?_
  · rw [(advance_frame q now).1, (advance_frame p now).1, h.timings]
  · rw [isOpen_advance, isOpen_advance, h.isOpen]
  · rw [contains_advance, contains_advance]
    constructor
    · rintro (hn | ⟨d, hd, -, he, hn⟩)
      · refine (h.early e n hn).imp_right ?_
        rintro ⟨d, hd, he, hn⟩
        exact ⟨d, hd, hdue d hd, he, hn⟩
      · have hd := h.deferred d hd
        exact .inr ⟨d, hd, hdue d hd, he, hn⟩
    · rintro (hn | ⟨d, hd, -, rfl, rfl⟩)
      · exact .inl (h.kept e n hn)
      · rcases h.come d hd with hq | hn
        · exact .inr ⟨d, hq, hdue d hd, rfl, rfl⟩
        · exact .inl hn
  · rw [(advance_frame q now).2, (advance_frame p now).2, h.offset]
  · rw [hnone, pending_advance, List.filter_eq_nil_iff]
    intro d hd
    simp [hdue d (h.deferred d hd)]

/-- It does not matter when a panel is polled. Whatever polls are strewn among the events of a panel,
at whatever times, it ends as it does without them, once a last poll has left nothing to wait for. Two
polls one after the other do what the later one does. And a poll changes nothing, and says so, exactly
if the next deadline is not reached. -/
theorem run_ignores_polls (t : Timings) (es : List Event) :
    let polled := run { timings := t } es
    let plain := run { timings := t } (es.filter (!·.isPoll))
    (∀ last, (plain.advance last).1.pending = [] → (polled.advance last).1 = (plain.advance last).1) ∧
      (∀ now later, ((polled.advance now).1.advance later).1 = (polled.advance (max now later)).1) ∧
      ∀ now, ((polled.advance now).1 = polled ↔ ¬ ∃ d, polled.nextDeadline = some d ∧ d ≤ now) ∧
        ((polled.advance now).2 = false ↔ ¬ ∃ d, polled.nextDeadline = some d ∧ d ≤ now) := by
  intro polled plain
  have hahead : Ahead plain polled := ahead_run (ahead_refl _) (orderly_start t) (follows_start t) es
  have hpolled : Tidy polled := tidy_run (tidy_start t) es
  have hplain : Tidy plain := tidy_run (tidy_start t) _
  refine ⟨fun last hnone => hahead.eq_of_settled hplain hpolled hnone, fun now later => advance_advance hpolled now later,
    fun now => ?_⟩
  rw [nextDeadline_le_iff]
  exact ⟨advance_eq_self_iff, advance_eq_false_iff⟩

/-- A call is started and the panel closed before the microphone is up, then the delays change and the
panel opens again. Polls come in between, so one panel has put the microphone away when the other has
not yet. -/
theorem run_ignores_polls_reopened :
    let es : List Event := [.advance 0, .toggle 1, .advance 5, .startGlow, .advance 20, .engage 30, .toggle 32,
      .setTimings { openDelay := 500, closeDelay := 5 }, .advance 400, .toggle 410, .stopGlow]
    let polled := run {} es
    let plain := run {} (es.filter (!·.isPoll))
    (plain.advance 1000).1.pending = [] ∧ polled.microphone.names = ["close"] ∧ plain.microphone.names = [] ∧
      (polled.advance 1000).1 = (plain.advance 1000).1 ∧ (polled.advance 1000).1.panel.names = ["open"] := by
  intro es polled plain
  have hnone : (plain.advance 1000).1.pending = [] := by cbv
  exact ⟨hnone, by cbv, by cbv, (run_ignores_polls {} es).1 1000 hnone, by cbv⟩

end Panel
end SchemaAtlas
