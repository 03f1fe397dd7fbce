import Mathlib.Data.List.Nodup
import SchemaAtlas.Panel
/-!
# What every panel keeps

A panel from its start on, through any events at any times. All changes of an element's
look are turns (`turn`): the class of the other look goes at once, its own comes later. So
a class that waits never meets its opposite (`Orderly`), and what waits for the panel, or
has arrived there, is what the open flag says (`Follows`). Both are kept by every event,
and `run_keeps_classes` says what they amount to.
-/

namespace SchemaAtlas

/-! ## Class lists -/

namespace ClassList

theorem mem_insertName {name n : String} {ns : List String} :
    n ∈ insertName name ns ↔ n = name ∨ n ∈ ns := by
  induction ns with
  | nil => simp [insertName]
  | cons m ms ih =>
    unfold insertName
    split
    · simp
    · split
      · next h => simp [h]
      · simp only [List.mem_cons, ih]
        exact or_left_comm

@[simp] theorem contains_add (c : ClassList) (name n : String) :
    (c.add name).contains n = (n == name || c.contains n) := by
  rw [Bool.eq_iff_iff]
  simp [contains, add, mem_insertName]

@[simp] theorem contains_remove (c : ClassList) (name n : String) :
    (c.remove name).contains n = (n != name && c.contains n) := by
  rw [Bool.eq_iff_iff]
  simp [contains, remove, and_comm]

theorem contains_toggle (c : ClassList) (name n : String) :
    (c.toggle name).contains n = (c.contains n ^^ n == name) := by
  unfold toggle
  by_cases hn : n = name
  · subst hn
    split <;> simp_all
  · have hne : (n == name) = false := by simpa using hn
    split <;> simp [hne, bne]

end ClassList

namespace Panel

/-! ## Turns -/

/-- The class of an open or of a closed element. -/
def mark : Bool → String
  | true => "open"
  | false => "close"

theorem mark_inj {a b : Bool} : mark a = mark b ↔ a = b := by
  cases a <;> cases b <;> decide

/-- Takes a class from an element. -/
def removeClass (p : Panel) (e : Element) (name : String) : Panel :=
  match e with
  | .button => { p with button := p.button.remove name }
  | .panel => { p with panel := p.panel.remove name }
  | .callBar => { p with callBar := p.callBar.remove name }
  | .microphone => { p with microphone := p.microphone.remove name }

/-- Turns an element to its open or its closed look: the class of the other look goes at
once, its own comes at `due`. -/
def turn (p : Panel) (e : Element) (look : Bool) (due : Nat) : Panel :=
  (p.removeClass e (mark !look)).schedule e (mark look) due

/-- Opening turns the panel, closing turns the panel and the microphone. -/
theorem toggle_eq (p : Panel) (now : Nat) :
    p.toggle now =
      let q := { p with isOpen := !p.isOpen, button := p.button.toggle "active" }
      if p.isOpen then
        ({ q with callBarOffset := 0 }.turn .panel false (now + p.timings.closeDelay)).turn .microphone false
          (now + p.timings.closeDelay)
      else q.turn .panel true (now + p.timings.openDelay) := by
  unfold toggle
  cases p.isOpen <;> rfl

theorem engage_eq (p : Panel) (now : Nat) :
    p.engage now =
      { p with callBarOffset := p.timings.callBarShift }.turn .microphone true (now + p.timings.openDelay) :=
  rfl

theorem classes_addClass (p : Panel) (e f : Element) (name : String) :
    (p.addClass e name).classes f = if f = e then (p.classes f).add name else p.classes f := by
  cases e <;> cases f <;> rfl

theorem classes_turn (p : Panel) (e f : Element) (look : Bool) (due : Nat) :
    (p.turn e look due).classes f = if f = e then (p.classes f).remove (mark !look) else p.classes f := by
  cases e <;> cases f <;> rfl

theorem pending_turn (p : Panel) (e : Element) (look : Bool) (due : Nat) :
    (p.turn e look due).pending = p.pending.filter (·.element != e) ++ [⟨due, e, mark look⟩] := by
  cases e <;> rfl

theorem mem_pending_turn {p : Panel} {e : Element} {look : Bool} {due : Nat} {d : Deferred} :
    d ∈ (p.turn e look due).pending ↔ (d ∈ p.pending ∧ d.element ≠ e) ∨ d = ⟨due, e, mark look⟩ := by
  simp [pending_turn]

/-! ## Deferred changes -/

theorem pending_addClass (p : Panel) (e : Element) (name : String) :
    (p.addClass e name).pending = p.pending := by
  cases e <;> rfl

theorem isOpen_addClass (p : Panel) (e : Element) (name : String) :
    (p.addClass e name).isOpen = p.isOpen := by
  cases e <;> rfl

/-- What the changes of a list leave, one after the other. -/
theorem foldl_addClass (ds : List Deferred) (p : Panel) :
    let q := ds.foldl (fun p d => p.addClass d.element d.name) p
    q.pending = p.pending ∧ q.isOpen = p.isOpen ∧
      ∀ e n, (q.classes e).contains n = true ↔
        (p.classes e).contains n = true ∨ ∃ d ∈ ds, d.element = e ∧ d.name = n := by
  induction ds generalizing p with
  | nil => simp
  | cons d ds ih =>
    obtain ⟨hp, ho, hc⟩ := ih (p.addClass d.element d.name)
    refine ⟨hp.trans (pending_addClass ..), ho.trans (isOpen_addClass ..), fun e n => ?_⟩
    simp only [List.foldl_cons, hc, classes_addClass, List.mem_cons, exists_eq_or_imp]
    by_cases he : e = d.element
    · subst he
      simp only [if_true, ClassList.contains_add, Bool.or_eq_true, beq_iff_eq, true_and, eq_comm (a := n)]
      rw [or_assoc, or_left_comm]
    · simp [he, Ne.symm he]

theorem pending_advance (p : Panel) (now : Nat) :
    (p.advance now).1.pending = p.pending.filter (!·.due ≤ now) :=
  (foldl_addClass _ _).1

theorem isOpen_advance (p : Panel) (now : Nat) : (p.advance now).1.isOpen = p.isOpen :=
  (foldl_addClass _ _).2.1

/-- An element gets the classes that are due for it. -/
theorem contains_advance {p : Panel} {now : Nat} {e : Element} {n : String} :
    ((p.advance now).1.classes e).contains n = true ↔
      (p.classes e).contains n = true ∨ ∃ d ∈ p.pending, d.due ≤ now ∧ d.element = e ∧ d.name = n := by
  refine ((foldl_addClass _ _).2.2 e n).trans (or_congr ?_ ?_)
  · cases e <;> rfl
  · simp [List.mem_mergeSort, and_assoc]

/-! ## No element is open and closed -/

/-- At most one change waits for an element, only the panel and the microphone have any, and
a class that waits, or is there, does not meet its opposite. -/
structure Orderly (p : Panel) : Prop where
  single : (p.pending.map Deferred.element).Nodup
  movable : ∀ d ∈ p.pending, d.element = .panel ∨ d.element = .microphone
  ready : ∀ d ∈ p.pending, ∃ look, d.name = mark look ∧ (p.classes d.element).contains (mark !look) = false
  exclusive : ∀ e, ¬ ((p.classes e).contains (mark true) = true ∧ (p.classes e).contains (mark false) = true)

/-- Nothing waits for a new panel, and it has no classes. -/
theorem orderly_start (t : Timings) : Orderly { timings := t } := by
  refine ⟨by simp, by simp, by simp, fun e => ?_⟩
  cases e <;> simp [classes, ClassList.contains]

/-- What waits, and which elements are open or closed, is all that matters. -/
theorem Orderly.congr {p q : Panel} (h : Orderly p) (hp : q.pending = p.pending)
    (hc : ∀ e look, (q.classes e).contains (mark look) = (p.classes e).contains (mark look)) : Orderly q := by
  refine ⟨hp ▸ h.single, hp ▸ h.movable, fun d hd => ?_, fun e => ?_⟩
  · obtain ⟨look, hn, hm⟩ := h.ready d (hp ▸ hd)
    exact ⟨look, hn, (hc _ _).trans hm⟩
  · rw [hc, hc]
    exact h.exclusive e

/-- The two changes of an element are the same change. -/
theorem Orderly.unique {p : Panel} (h : Orderly p) {c d : Deferred} (hc : c ∈ p.pending) (hd : d ∈ p.pending)
    (he : c.element = d.element) : c = d :=
  List.inj_on_of_nodup_map h.single hc hd he

theorem orderly_turn {p : Panel} (h : Orderly p) {e : Element} (he : e = .panel ∨ e = .microphone)
    (look : Bool) (due : Nat) : Orderly (p.turn e look due) := by
  constructor
  · rw [pending_turn, List.map_append, List.nodup_append]
    refine ⟨h.single.sublist (List.filter_sublist.map _), by simp, ?_⟩
    simp only [List.mem_map, List.mem_filter, bne_iff_ne]
    rintro _ ⟨d, ⟨-, hd⟩, rfl⟩ _ hx rfl
    simp_all
  · intro d hd
    rcases mem_pending_turn.1 hd with ⟨hd, -⟩ | rfl
    · exact h.movable d hd
    · exact he
  · intro d hd
    rcases mem_pending_turn.1 hd with ⟨hd, hne⟩ | rfl
    · rw [classes_turn, if_neg hne]
      exact h.ready d hd
    · exact ⟨look, rfl, by simp [classes_turn]⟩
  · intro f
    rw [classes_turn]
    split
    · cases look <;> simp
    · exact h.exclusive f

/-- A class that comes in time was ready, so its opposite is neither there nor coming. -/
theorem orderly_advance {p : Panel} (h : Orderly p) (now : Nat) : Orderly (p.advance now).1 := by
  have opposite : ∀ d ∈ p.pending, ∃ look, d.name = mark look ∧
      ((p.advance now).1.classes d.element).contains (mark !look) = false := by
    intro d hd
    obtain ⟨look, hn, hm⟩ := h.ready d hd
    refine ⟨look, hn, Bool.eq_false_iff.2 fun hc => ?_⟩
    rcases contains_advance.1 hc with hc | ⟨c, hmem, -, he, hname⟩
    · rw [hm] at hc
      cases hc
    · rw [h.unique hmem hd he, hn, mark_inj] at hname
      cases look <;> cases hname
  have hsub : (p.advance now).1.pending.Sublist p.pending := by
    rw [pending_advance]
    exact List.filter_sublist
  refine ⟨h.single.sublist (hsub.map _), fun d hd => h.movable d (hsub.subset hd),
    fun d hd => opposite d (hsub.subset hd), fun e => ?_⟩
  rintro ⟨ht, hf⟩
  have arrived : ∀ look, ((p.advance now).1.classes e).contains (mark look) = true →
      ((p.advance now).1.classes e).contains (mark !look) = true → (p.classes e).contains (mark look) = true := by
    intro look hl hr
    rcases contains_advance.1 hl with hl | ⟨d, hd, -, rfl, hn⟩
    · exact hl
    · obtain ⟨look', hn', hm⟩ := opposite d hd
      rw [hn, mark_inj] at hn'
      rw [← hn', hr] at hm
      cases hm
  exact h.exclusive e ⟨arrived true ht hf, arrived false hf ht⟩

/-! ## The panel follows its flag -/

/-- The button shows whether the panel is open. The class that waits for the panel is the one
the flag says, and the other one is not there; once the panel was `toggled`, it has the right
class or waits for it. -/
structure Follows (toggled : Prop) (p : Panel) : Prop where
  button : p.button.contains "active" = p.isOpen
  aims : ∀ d ∈ p.pending, d.element = .panel → d.name = mark p.isOpen
  clear : p.panel.contains (mark !p.isOpen) = false
  settled : toggled → (∀ d ∈ p.pending, d.element ≠ .panel) → p.panel.contains (mark p.isOpen) = true

theorem follows_start (t : Timings) : Follows False { timings := t } :=
  ⟨rfl, by simp, rfl, False.elim⟩

theorem Follows.mono {p : Panel} {a b : Prop} (h : Follows a p) (hab : b → a) : Follows b p :=
  { h with settled := fun hb => h.settled (hab hb) }

/-- Nothing but the flag, the button and the panel with its own changes matters. -/
theorem Follows.congr {toggled : Prop} {p q : Panel} (h : Follows toggled p) (ho : q.isOpen = p.isOpen)
    (hb : q.button = p.button) (hp : ∀ d, d.element = .panel → (d ∈ q.pending ↔ d ∈ p.pending))
    (hc : ∀ look, q.panel.contains (mark look) = p.panel.contains (mark look)) : Follows toggled q := by
  refine ⟨by rw [hb, ho, h.button], fun d hd he => ?_, by rw [hc, ho, h.clear], fun ht hq => ?_⟩
  · rw [ho]
    exact h.aims d ((hp d he).1 hd) he
  · rw [hc, ho]
    exact h.settled ht fun d hd he => hq d ((hp d he).2 hd) he

/-- A turn of the panel to what the flag says puts it right. -/
theorem follows_turn {p : Panel} (hb : p.button.contains "active" = p.isOpen) (due : Nat) (toggled : Prop) :
    Follows toggled (p.turn .panel p.isOpen due) := by
  refine ⟨hb, fun d hd he => ?_, by simp [turn, removeClass, schedule], fun _ hn => ?_⟩
  · rcases mem_pending_turn.1 hd with ⟨-, hne⟩ | rfl
    · exact absurd he hne
    · rfl
  · exact absurd rfl (hn _ (mem_pending_turn.2 (.inr rfl)))

theorem follows_turn_microphone {toggled : Prop} {p : Panel} (h : Follows toggled p) (look : Bool)
    (due : Nat) : Follows toggled (p.turn .microphone look due) := by
  refine h.congr rfl rfl (fun d he => ?_) fun _ => rfl
  rw [mem_pending_turn]
  constructor
  · rintro (⟨hd, -⟩ | rfl)
    · exact hd
    · cases he
  · exact fun hd => .inl ⟨hd, by simp [he]⟩

theorem button_advance (p : Panel) (now : Nat) (h : Orderly p) :
    (p.advance now).1.button.contains "active" = p.button.contains "active" := by
  rw [Bool.eq_iff_iff]
  refine (contains_advance (e := .button)).trans ⟨?_, .inl⟩
  rintro (hb | ⟨d, hd, -, he, -⟩)
  · exact hb
  · have := h.movable d hd
    simp [he] at this

theorem follows_advance {toggled : Prop} {p : Panel} (ho : Orderly p) (h : Follows toggled p) (now : Nat) :
    Follows toggled (p.advance now).1 := by
  have hsub : ∀ d, d ∈ (p.advance now).1.pending ↔ d ∈ p.pending ∧ ¬ d.due ≤ now := by
    simp [pending_advance]
  refine ⟨?_, ?_, ?_, fun ht hn => ?_⟩
  · rw [button_advance p now ho, isOpen_advance, h.button]
  · intro d hd he
    rw [isOpen_advance]
    exact h.aims d ((hsub d).1 hd).1 he
  · rw [isOpen_advance, Bool.eq_false_iff]
    intro hc
    rcases (contains_advance (e := .panel)).1 hc with hc | ⟨d, hd, -, he, hname⟩
    · rw [show (p.classes .panel).contains _ = false from h.clear] at hc
      cases hc
    · rw [h.aims d hd he, mark_inj] at hname
      cases hopen : p.isOpen <;> rw [hopen] at hname <;> cases hname
  · rw [isOpen_advance]
    refine (contains_advance (e := .panel)).2 ?_
    by_cases hwait : ∃ d ∈ p.pending, d.element = .panel
    · -- Nothing waits for the panel any more, so its change was due.
      obtain ⟨d, hd, he⟩ := hwait
      refine .inr ⟨d, hd, ?_, he, h.aims d hd he⟩
      by_contra hdue
      exact hn d ((hsub d).2 ⟨hd, hdue⟩) he
    · exact .inl (h.settled ht fun d hd he => hwait ⟨d, hd, he⟩)

/-! ## Runs -/

/-- The panel after events, in order. -/
def run (p : Panel) (es : List Event) : Panel := es.foldl act p

/-- The flag, the button and the call bar have no look. -/
theorem orderly_pressed {p : Panel} (h : Orderly p) (offset : Float32) :
    Orderly { p with isOpen := !p.isOpen, button := p.button.toggle "active", callBarOffset := offset } := by
  refine h.congr rfl fun e look => ?_
  cases e <;> try rfl
  cases look <;> simp [classes, ClassList.contains_toggle, mark]

theorem orderly_toggle {p : Panel} (h : Orderly p) (now : Nat) : Orderly (p.toggle now) := by
  rw [toggle_eq]
  dsimp only
  split
  · exact orderly_turn (orderly_turn (orderly_pressed h 0) (.inl rfl) _ _) (.inr rfl) _ _
  · exact orderly_turn (orderly_pressed h p.callBarOffset) (.inl rfl) _ _

theorem follows_toggle {toggled : Prop} {p : Panel} (h : Follows toggled p) (now : Nat) (after : Prop) :
    Follows after (p.toggle now) := by
  have hb : (p.button.toggle "active").contains "active" = !p.isOpen := by
    simp [ClassList.contains_toggle, h.button]
  rw [toggle_eq]
  dsimp only
  cases ho : p.isOpen <;> rw [ho] at hb
  · exact follows_turn (p := { p with isOpen := true, button := _ }) hb _ _
  · exact follows_turn_microphone
      (follows_turn (p := { p with isOpen := false, button := _, callBarOffset := 0 }) hb _ _) _ _

/-- A glow of the panel is neither of the two looks. -/
theorem keeps_of_panel {toggled : Prop} {p : Panel} (ho : Orderly p) (hf : Follows toggled p) {c : ClassList}
    (hc : ∀ look, c.contains (mark look) = p.panel.contains (mark look)) :
    Orderly { p with panel := c } ∧ Follows toggled { p with panel := c } := by
  refine ⟨ho.congr rfl fun e look => ?_, hf.congr rfl rfl (fun _ _ => .rfl) hc⟩
  cases e <;> try rfl
  exact hc look

/-- Every event keeps both; from a toggle on, the panel has a class of its own. -/
theorem act_keeps {toggled : Prop} {p : Panel} (ho : Orderly p) (hf : Follows toggled p) (e : Event) :
    Orderly (p.act e) ∧ Follows (toggled ∨ ∃ now, e = .toggle now) (p.act e) := by
  have still : (∀ now, e ≠ .toggle now) → Orderly (p.act e) ∧ Follows toggled (p.act e) →
      Orderly (p.act e) ∧ Follows (toggled ∨ ∃ now, e = .toggle now) (p.act e) := fun hne h =>
    ⟨h.1, h.2.mono fun ht => ht.resolve_right fun ⟨now, he⟩ => hne now he⟩
  cases e with
  | toggle now => exact ⟨orderly_toggle ho now, follows_toggle hf now _⟩
  | engage now =>
    have hq : Orderly { p with callBarOffset := p.timings.callBarShift } :=
      ho.congr rfl fun e _ => by cases e <;> rfl
    have hq' : Follows toggled { p with callBarOffset := p.timings.callBarShift } :=
      hf.congr rfl rfl (fun _ _ => .rfl) fun _ => rfl
    refine still nofun ?_
    simp only [act, engage_eq]
    exact ⟨orderly_turn hq (.inr rfl) true _, follows_turn_microphone hq' true _⟩
  | startGlow => exact still nofun (keeps_of_panel ho hf fun look => by cases look <;> simp [mark])
  | stopGlow => exact still nofun (keeps_of_panel ho hf fun look => by cases look <;> simp [mark])
  | setTimings t =>
    exact still nofun ⟨ho.congr rfl fun e _ => by cases e <;> rfl,
      hf.congr rfl rfl (fun _ _ => .rfl) fun _ => rfl⟩
  | advance now => exact still nofun ⟨orderly_advance ho now, follows_advance ho hf now⟩

theorem run_keeps {toggled : Prop} {p : Panel} (ho : Orderly p) (hf : Follows toggled p) (es : List Event) :
    Orderly (p.run es) ∧ Follows (toggled ∨ ∃ now, .toggle now ∈ es) (p.run es) := by
  induction es generalizing p toggled with
  | nil => exact ⟨ho, hf.mono (by simp)⟩
  | cons e es ih =>
    obtain ⟨ho', hf'⟩ := act_keeps ho hf e
    obtain ⟨ho'', hf''⟩ := ih ho' hf'
    refine ⟨ho'', hf''.mono ?_⟩
    rintro (ht | ⟨now, hn⟩)
    · exact .inl (.inl ht)
    · rcases List.mem_cons.1 hn with rfl | hn
      · exact .inl (.inr ⟨now, rfl⟩)
      · exact .inr ⟨now, hn⟩

/-- Whatever happens to a panel, and when: at most one change waits for an element, and only
for the panel and the microphone; the button is active exactly while the panel is open; no
element is both open and closed; and once the panel was toggled and nothing waits for it any
more, it has the class of its flag and not the other. -/
theorem run_keeps_classes (t : Timings) (es : List Event) :
    let p := run { timings := t } es
    (p.pending.map Deferred.element).Nodup ∧
      (∀ d ∈ p.pending, d.element = .panel ∨ d.element = .microphone) ∧
      ((p.classes .button).contains "active" = true ↔ p.isOpen = true) ∧
      (∀ e, ¬ ((p.classes e).contains "open" = true ∧ (p.classes e).contains "close" = true)) ∧
      ((∃ now, .toggle now ∈ es) → (∀ d ∈ p.pending, d.element ≠ .panel) →
        (p.classes .panel).contains "open" = p.isOpen ∧ (p.classes .panel).contains "close" = !p.isOpen) := by
  intro p
  obtain ⟨ho, hf⟩ := run_keeps (orderly_start t) (follows_start t) es
  refine ⟨ho.single, ho.movable, Bool.eq_iff_iff.1 hf.button, ho.exclusive, fun ht hn => ?_⟩
  have hthere := hf.settled (.inr ht) hn
  have hclear := hf.clear
  cases hopen : (run { timings := t } es).isOpen <;> rw [hopen] at hthere hclear
  · exact ⟨hclear, hthere⟩
  · exact ⟨hthere, hclear⟩

/-- A panel that is closed again before it was open, while the microphone comes up and the
delays change, ends closed. -/
theorem run_keeps_classes_reclosed :
    let es : List Event := [.toggle 0, .engage 2, .setTimings { openDelay := 50, closeDelay := 5 }, .toggle 4,
      .startGlow, .advance 10]
    let p := run {} es
    (∃ now, .toggle now ∈ es) ∧ (∀ d ∈ p.pending, d.element ≠ .panel) ∧
      (p.classes .panel).contains "open" = false ∧ (p.classes .panel).contains "close" = true := by
  intro es p
  have ht : ∃ now, .toggle now ∈ es := ⟨0, by simp [es]⟩
  let q := run {} es.dropLast
  have hnone : p.pending = [] :=
    calc p.pending = q.pending.filter (!·.due ≤ 10) := pending_advance q 10
      _ = [] := by decide +kernel
  have hopen : p.isOpen = false :=
    calc p.isOpen = q.isOpen := isOpen_advance q 10
      _ = false := by decide +kernel
  have hn : ∀ d ∈ p.pending, d.element ≠ .panel := by simp [hnone]
  have h := (run_keeps_classes {} es).2.2.2.2 ht hn
  exact ⟨ht, hn, h.1.trans hopen, h.2.trans (by rw [hopen]; rfl)⟩

end Panel
end SchemaAtlas
