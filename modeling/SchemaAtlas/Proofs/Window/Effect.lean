import SchemaAtlas.Proofs.Scene.Runs
import SchemaAtlas.Window.Basic
/-!
# What an event does to a window

`Effect` says once what an event can do to the calls, the draft and the schema of a window:
it takes the answer to a call or passes it over, starts a fetch, works on the draft, or touches
none of them (`Alike`). Everything about runs of a window is a case analysis over it.
-/

namespace SchemaAtlas

/-! ## Scenes without a schema -/

namespace Scene

/-- Where there is no schema, nothing is drawn. -/
theorem Coherent.empty {s : Scene} (h : Coherent s) (hd : s.document = .empty) :
    s.arena.groups = [] ∧ s.edges = [] := by
  have hgroups := h.groups
  have hedges := h.edges
  rw [hd] at hgroups hedges
  exact ⟨List.map_eq_nil_iff.1 hgroups, hedges⟩

end Scene

namespace Window

/-! ## Answers -/

@[simp] theorem fetch_takeFetch (w : Window) (r : Except String Document) : (w.takeFetch r).fetch = none := by
  cases r <;> rfl

@[simp] theorem save_takeFetch (w : Window) (r : Except String Document) : (w.takeFetch r).save = w.save := by
  cases r <;> rfl

@[simp] theorem calls_takeFetch (w : Window) (r : Except String Document) : (w.takeFetch r).calls = w.calls := by
  cases r <;> rfl

theorem editor_takeFetch {w : Window} {c : SaveCall} (hc : w.save = some c) (r : Except String Document) :
    (w.takeFetch r).editor = w.editor := by
  cases r with
  | ok d => rfl
  | error e => simp [takeFetch, hc]

theorem document_takeSave (w : Window) (d : Document) : (w.takeSave (.ok d)).scene.document = d := by
  simp only [takeSave, Scene.finishSave]
  split
  · rw [Scene.document_selectTable, Scene.document_build]
  · exact Scene.document_build ..

/-! ## What an event does -/

/-- The fetch that an event answers, and the answer. -/
def Event.fetchAnswer? : Event → Option (Nat × Except String Document)
  | .fetched number r => some (number, r.mapError FetchError.message)
  | .fetchLost number => some (number, .error "schema fetch worker exited")
  | _ => none

/-- The save that an event answers, and the answer. -/
def Event.saveAnswer? : Event → Option (Nat × Except String Document)
  | .saved number r => some (number, r.mapError SaveError.message)
  | .saveLost number => some (number, .error (SaveError.rejected "save worker exited").message)
  | _ => none

/-- The second window has the calls, the draft and the schema of the first. -/
structure Alike (w w' : Window) : Prop where
  load : w'.load = w.load
  calls : w'.calls = w.calls
  fetch : w'.fetch = w.fetch
  save : w'.save = w.save
  editor : w'.editor = w.editor
  document : w'.scene.document = w.scene.document
  coherent : w.scene.Coherent → w'.scene.Coherent

theorem alike_self (w : Window) : Alike w w := ⟨rfl, rfl, rfl, rfl, rfl, rfl, id⟩

theorem alike_keepLog (w : Window) : Alike w w.keepLog := by
  unfold keepLog
  split
  · exact { alike_self w with }
  · exact alike_self w

theorem alike_restartServer (w : Window) : Alike w w.restartServer := by
  unfold restartServer
  split
  · dsimp only
    split
    · exact { alike_keepLog { w with server := _ } with }
    · exact { alike_keepLog { w with server := _ } with }
    · exact { alike_self w with }
  · exact { alike_self w with }

/-- New settings start a fetch or leave the calls alone. -/
theorem adopt_cases (w : Window) (s : Settings) :
    Alike w (w.adopt s) ∨ ∃ v, Alike w v ∧ w.adopt s = v.reload := by
  have hscene : w.scene.Coherent → (w.scene.setConfig s.sceneConfig).Coherent := fun h =>
    Scene.coherent_step h (.setConfig s.sceneConfig)
  unfold adopt
  dsimp only
  split
  · split
    · exact .inl { alike_self w with coherent := hscene }
    · refine .inr ⟨_, ?_, rfl⟩
      exact { alike_self w with coherent := hscene }
  · refine .inr ⟨_, ?_, rfl⟩
    have hserver := alike_restartServer
      { w with settings := s, scene := w.scene.setConfig s.sceneConfig
               assistant := w.assistant.setTimings s.panelTimings
               preferences := none, notice := some "Preferences saved" }
    exact { hserver with coherent := fun h => hserver.coherent (hscene h) }

theorem savePreferences_cases (w : Window) :
    Alike w w.savePreferences ∨ ∃ v, Alike w v ∧ w.savePreferences = v.reload := by
  unfold savePreferences
  split
  · exact .inl (alike_self w)
  · split
    · exact .inl { alike_self w with }
    · split
      · exact .inl { alike_self w with }
      · next s _ _ files _ =>
        rcases adopt_cases { w with files } s with h | ⟨v, h, heq⟩
        · exact .inl { h with }
        · exact .inr ⟨v, { h with }, heq⟩

/-- What an event does to the calls, the draft and the schema of a window. -/
inductive Effect (w : Window) : Event → Window → Prop
  | takesFetch {e : Event} {c : FetchCall} {r : Except String Document}
      (he : e.fetchAnswer? = some (c.number, r)) (hc : w.fetch = some c) : Effect w e (w.takeFetch r)
  | takesSave {e : Event} {c : SaveCall} {r : Except String Document}
      (he : e.saveAnswer? = some (c.number, r)) (hc : w.save = some c) : Effect w e (w.takeSave r)
  /-- An answer to a call that is not waited for is passed over. -/
  | ignores {e : Event} {number : Nat} {r : Except String Document}
      (he : e.fetchAnswer? = some (number, r) ∨ e.saveAnswer? = some (number, r)) : Effect w e w
  | fetches {e : Event} {v : Window} (ha : Alike w v) : Effect w e v.reload
  | opens {table : String} {d : Draft} (hs : w.save = none) (hd : d.saving = false) :
      Effect w (.openEditor table) { w with editor := some d }
  | edits (x : Draft.Edit) : Effect w (.editDraft x) { w with editor := w.editor.map (·.apply x) }
  | sends {d : Draft} {u : TableUpdate} (hd : w.idleDraft? = some d) (hu : d.toUpdate = .ok u) :
      Effect w .saveDraft
        { w with editor := some { d with status := none, saving := true }, calls := w.calls + 1
                 save := some ⟨w.calls + 1, w.settings.schemaEndpoint, w.settings.apiKey, d.tableName, u⟩ }
  | notes {d : Draft} (hd : w.idleDraft? = some d) (message : String) :
      Effect w .saveDraft { w with editor := some { d with status := some message } }
  | closes {d : Draft} (hd : w.idleDraft? = some d) : Effect w .closeDraft { w with editor := none }
  | rests {e : Event} {v : Window} (ha : Alike w v) : Effect w e v

theorem effect_fetched {w : Window} {e : Event} {number : Nat} {r : Except String Document}
    (he : e.fetchAnswer? = some (number, r)) : Effect w e (w.fetched number r) := by
  unfold fetched
  split
  · next c hc =>
    split
    · next hnumber =>
      subst hnumber
      exact .takesFetch he hc
    · exact .ignores (.inl he)
  · exact .ignores (.inl he)

theorem effect_saved {w : Window} {e : Event} {number : Nat} {r : Except String Document}
    (he : e.saveAnswer? = some (number, r)) : Effect w e (w.saved number r) := by
  unfold saved
  split
  · next c hc =>
    split
    · next hnumber =>
      subst hnumber
      exact .takesSave he hc
    · exact .ignores (.inr he)
  · exact .ignores (.inr he)

theorem effect_openEditor (w : Window) (table : String) : Effect w (.openEditor table) (w.openEditor table) := by
  unfold openEditor
  split
  · exact .rests { alike_self w with }
  · next hs =>
    unfold Scene.openDraft
    cases w.scene.document.table? table with
    | none => exact .rests { alike_self w with }
    | some t => exact .opens (Option.not_isSome_iff_eq_none.1 hs) rfl

theorem effect_saveDraft (w : Window) : Effect w .saveDraft w.saveDraft := by
  unfold saveDraft
  split
  · next d hd =>
    unfold sendDraft
    split
    · next u hu => exact .sends hd hu
    · exact .notes hd _
  · exact .rests (alike_self w)

theorem effect_closeDraft (w : Window) : Effect w .closeDraft w.closeDraft := by
  unfold closeDraft
  split
  · next d hd => exact .closes hd
  · exact .rests (alike_self w)

theorem effect_step (w : Window) (e : Event) : Effect w e (w.step e) := by
  cases e with
  | fetched number r => exact effect_fetched rfl
  | fetchLost number => exact effect_fetched rfl
  | saved number r => exact effect_saved rfl
  | saveLost number => exact effect_saved rfl
  | reload => exact .fetches (alike_self w)
  | openEditor table => exact effect_openEditor w table
  | editDraft x => exact .edits x
  | saveDraft => exact effect_saveDraft w
  | closeDraft => exact effect_closeDraft w
  | savePreferences =>
    simp only [step]
    rcases savePreferences_cases w with h | ⟨v, h, heq⟩
    · exact .rests h
    · rw [heq]
      exact .fetches h
  -- The scene is looked at in another way, but it is a scene of the same document.
  | select table =>
    exact .rests { alike_self w with
      document := Scene.document_selectTable .., coherent := (Scene.coherent_selectTable · table) }
  | relayout => exact .rests { alike_self w with coherent := Scene.coherent_relayout }
  | toggleRelationships => exact .rests { alike_self w with coherent := Scene.coherent_toggleRelationships }
  | toggleParticles => exact .rests { alike_self w with coherent := (Scene.coherent_step · .toggleParticles) }
  | moveCamera f => exact .rests { alike_self w with coherent := (Scene.coherent_step · (.moveCamera f)) }
  | resetView => exact .rests { alike_self w with coherent := (Scene.coherent_step · (.moveCamera fun _ => .initial)) }
  | frame ms => exact .rests { alike_self w with coherent := (Scene.coherent_step · (.tick ms)) }
  | _ => exact .rests { alike_self w with }

end Window
end SchemaAtlas
