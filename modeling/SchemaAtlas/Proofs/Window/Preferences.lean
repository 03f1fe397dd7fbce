import SchemaAtlas.Proofs.Files.Writing
import SchemaAtlas.Proofs.Json.Words
import SchemaAtlas.Proofs.Text.Trim
import SchemaAtlas.Window.Basic
/-!
# Preferences that are saved as they are

The preferences show a setting that may be left out in a text field, and read it back from there without the blanks
at its ends; an empty field leaves it out. A seed survives this (`seed?_text`), and a text does so if it is not empty
and has no such blanks (`bind_optional_eq_self_iff`). So preferences that are opened and saved without an edit keep
the seed, and other settings up to these blanks; where they lose some, the server is started again
(`unedited_kept_iff`). Paths are compared part by part, but no part of a path loses a blank unnoticed
(`same_trim_iff`).
-/

namespace SchemaAtlas

open Text (trim isBlank isBlankText)

/-! ## Paths with blanks -/

namespace Path

/-- How many blanks a text has. -/
def blanks (s : String) : Nat := s.toList.countP isBlank

/-- Between the slashes, nothing is left out. -/
theorem countP_flatten_cut (p : Char → Bool) (hp : p '/' = false) (cs : List Char) :
    (cut cs).flatten.countP p = cs.countP p := by
  induction cs with
  | nil => rfl
  | cons c cs ih =>
    rw [cut]
    split
    · next hslash => simp [hslash, hp, ih]
    · cases hcut : cut cs with
      | nil => exact absurd hcut (cut_ne_nil cs)
      | cons part parts =>
        rw [hcut, List.flatten_cons] at ih
        simp only [List.flatten_cons, List.cons_append, List.countP_cons, ih]

/-- The names that do not count have no blanks. -/
theorem countP_parts (path : String) : ((parts path).flatMap String.toList).countP isBlank = blanks path := by
  have hnames : ((names path).flatMap String.toList).countP isBlank = blanks path := by
    rw [blanks, ← countP_flatten_cut isBlank (by decide) path.toList]
    simp [names, List.flatMap_map]
  rw [parts, ← hnames]
  generalize names path = ns
  induction ns with
  | nil => rfl
  | cons n ns ih =>
    rw [List.filter_cons]
    split
    · simp [ih]
    · next hskipped =>
      have hnone : n.toList.countP isBlank = 0 := by
        have hn : n = "" ∨ n = "." := by
          by_contra hboth
          exact hskipped (by simpa [not_or] using hboth)
        rcases hn with rfl | rfl <;> decide
      rw [ih, List.flatMap_cons, List.countP_append, hnone, Nat.zero_add]

/-- A path without the blanks at its ends is another path, if it had any. -/
theorem same_trim_iff {path : String} : same path (trim path) = true ↔ trim path = path := by
  constructor
  · intro hsame
    simp only [same, beq_iff_eq, Prod.mk.injEq] at hsame
    have hblanks : blanks (trim path) = blanks path := by
      rw [← countP_parts, ← hsame.2.2, countP_parts]
    rw [Text.trim_eq_self_iff]
    refine Text.stripBoth_eq_self_of_countP ?_
    rwa [blanks, blanks, trim, String.toList_ofList] at hblanks
  · intro htrim
    rw [htrim]
    simp [same]

end Path

/-! ## What a text field keeps -/

namespace Preferences

/-- A setting that a text field keeps: it is left out, or a text that is not empty and has no blank at its ends. -/
def Kept (setting : Option String) : Prop := ∀ t, setting = some t → t ≠ "" ∧ trim t = t

theorem optional_getD (setting : Option String) : optional (setting.getD "") = setting.bind optional := by
  cases setting <;> rfl

theorem optional_eq_self_iff {t : String} : optional t = some t ↔ t ≠ "" ∧ trim t = t := by
  unfold optional
  split
  · next hblank =>
    rw [Text.isBlankText_iff] at hblank
    refine ⟨nofun, fun ⟨hne, htrim⟩ => absurd (htrim.symm.trans hblank) hne⟩
  · next hblank =>
    rw [Text.isBlankText_iff] at hblank
    rw [Option.some.injEq]
    exact ⟨fun htrim => ⟨fun hempty => hblank (by rw [htrim, hempty]), htrim⟩, And.right⟩

theorem bind_optional_eq_self_iff {setting : Option String} : setting.bind optional = setting ↔ Kept setting := by
  cases setting with
  | none => exact ⟨fun _ => nofun, fun _ => rfl⟩
  | some t =>
    rw [Option.bind_some, optional_eq_self_iff]
    exact ⟨by rintro h t ⟨⟩; exact h, fun h => h t rfl⟩

theorem isBlank_of_isDigit {c : Char} (h : c.isDigit = true) : isBlank c = false := by
  simp only [Char.isDigit, Bool.and_eq_true, decide_eq_true_eq, UInt32.le_iff_toNat_le] at h
  have hlow : 48 ≤ c.toNat := h.1
  have hhigh : c.toNat ≤ 57 := h.2
  simp only [isBlank, Bool.or_eq_false_iff, Bool.and_eq_false_iff, decide_eq_false_iff_not, beq_eq_false_iff_ne]
  omega

theorem below?_digits {n bound : Nat} (h : n < bound) : Decimal.below? bound (Decimal.digits n) = some n := by
  obtain ⟨c, cs, hdigits, -⟩ := Decimal.head_digits n
  have hall : ∀ d ∈ c :: cs, d.isDigit = true := fun d hd => Decimal.isDigit_of_mem_digits (hdigits ▸ hd)
  have hsign : c ≠ '+' := by
    rintro rfl
    exact absurd (hall '+' List.mem_cons_self) (by decide)
  have hvalue := Decimal.value_digits n
  rw [hdigits] at hvalue ⊢
  have hread : (c :: cs).any (!·.isDigit) = false := by
    rw [List.any_eq_false]
    exact fun d hd => by simp [hall d hd]
  unfold Decimal.below?
  split
  · next heq => exact absurd (List.cons.inj heq).1 hsign
  · simp only [List.isEmpty_cons, hread, Bool.or_self, Bool.false_eq_true, if_false, hvalue, if_pos h]

/-- The text of a seed is read as that seed. -/
theorem seed?_text (n : UInt64) : seed? (Decimal.text n.toNat) = some (some n) := by
  have hdigit : ∀ c ∈ Decimal.digits n.toNat, isBlank c = false :=
    fun c hc => isBlank_of_isDigit (Decimal.isDigit_of_mem_digits hc)
  have htrim : Text.trimChars (Decimal.digits n.toNat) = Decimal.digits n.toNat :=
    Text.stripBoth_eq_self_iff.2
      ⟨fun c hc => hdigit c (List.mem_of_mem_head? hc), fun c hc => hdigit c (List.mem_of_mem_getLast? hc)⟩
  have hblank : isBlankText (Decimal.text n.toNat) = false := by
    obtain ⟨c, cs, hdigits, -⟩ := Decimal.head_digits n.toNat
    simp [isBlankText, Decimal.text, hdigits, hdigit c (by simp [hdigits])]
  have hread : Decimal.below? (Nat.pow 2 64) (Decimal.digits n.toNat) = some n.toNat := below?_digits n.toNat_lt
  rw [seed?, if_neg (by simp [hblank]), Decimal.text, String.toList_ofList, htrim, hread]
  simp

theorem seed?_getD (seed : Option UInt64) : seed? ((seed.map fun n => Decimal.text n.toNat).getD "") = some seed := by
  cases seed with
  | none => rfl
  | some n => exact seed?_text n

/-- The preferences show settings. The number field of the port may have moved it to 1. -/
structure Shows (s : Settings) (p : Preferences) : Prop where
  source : p.source = s.schemaSource.getD ""
  logFolder : p.logFolder = s.apiLogOverride.getD ""
  seed : p.seed = (s.layoutSeed.map fun n => Decimal.text n.toNat).getD ""
  key : p.key = s.apiKey.getD ""
  endpoint : p.values.schemaEndpoint = s.schemaEndpoint
  enabled : p.values.apiEnabled = s.apiEnabled
  bindAddress : p.values.apiBindAddress = s.apiBindAddress
  port : p.values.apiPort = s.apiPort ∨ s.apiPort = 0 ∧ p.values.apiPort = 1

theorem shows_ofSettings (s : Settings) : Shows s (ofSettings s) := ⟨rfl, rfl, rfl, rfl, rfl, rfl, rfl, .inl rfl⟩

/-- Only the port 0 is moved. -/
theorem max_port {n : UInt16} (h : n ≠ 0) : max n 1 = n := by
  have hpos : n.toNat ≠ 0 := fun hzero => h (UInt16.toNat_inj.1 hzero)
  show (if n ≤ 1 then 1 else n) = n
  split
  · next hle =>
    have hone : n.toNat ≤ 1 := UInt16.le_iff_toNat_le.1 hle
    exact UInt16.toNat_inj.1 (show 1 = n.toNat by omega)
  · rfl

theorem Shows.shown {s : Settings} {p : Preferences} (h : Shows s p) : Shows s p.shown := by
  refine { h with port := ?_ }
  have hmax : p.shown.values.apiPort = max p.values.apiPort 1 := rfl
  rw [hmax]
  rcases h.port with hport | ⟨hzero, hport⟩
  · by_cases hzero : s.apiPort = 0
    · refine .inr ⟨hzero, ?_⟩
      rw [hport, hzero]
      rfl
    · refine .inl ?_
      rw [hport, max_port hzero]
  · refine .inr ⟨hzero, ?_⟩
    rw [hport]
    rfl

/-- Settings that are read back from preferences which show others. -/
structure Reread (s t : Settings) : Prop where
  source : t.schemaSource = s.schemaSource.bind optional
  logFolder : t.apiLogOverride = s.apiLogOverride.bind optional
  seed : t.layoutSeed = s.layoutSeed
  key : t.apiKey = s.apiKey.bind optional
  endpoint : t.schemaEndpoint = s.schemaEndpoint
  enabled : t.apiEnabled = s.apiEnabled
  bindAddress : t.apiBindAddress = s.apiBindAddress
  port : t.apiPort = s.apiPort ∨ s.apiPort = 0 ∧ t.apiPort = 1

/-- Preferences that show settings can always be read back. -/
theorem Shows.settings? {s : Settings} {p : Preferences} (h : Shows s p) :
    ∃ t, p.settings? = some t ∧ t.apiPort = p.values.apiPort ∧ Reread s t := by
  simp only [Preferences.settings?, h.seed, seed?_getD, Option.map_some, h.source, h.logFolder, h.key, optional_getD]
  exact ⟨_, rfl, rfl, ⟨rfl, rfl, rfl, rfl, h.endpoint, h.enabled, h.bindAddress, h.port⟩⟩

end Preferences

namespace Window

open Preferences (Kept Shows Reread optional)

/-! ## Meanwhile -/

/-- Whether an event is about the preferences. -/
def Event.isAboutPreferences : Event → Bool
  | .openPreferences | .editPreferences _ | .savePreferences | .closePreferences => true
  | _ => false

/-- What the preferences, and those who save them, depend on. -/
structure Untouched (w v : Window) : Prop where
  place : v.place = w.place
  files : v.files = w.files
  server : v.server = w.server
  serverError : v.serverError = w.serverError
  settings : v.settings = w.settings
  preferences : v.preferences = w.preferences

theorem untouched_self (w : Window) : Untouched w w := ⟨rfl, rfl, rfl, rfl, rfl, rfl⟩

theorem untouched_fetched (w : Window) (number : Nat) (r : Except String Document) : Untouched w (w.fetched number r) := by
  unfold fetched
  split
  · split
    · cases r <;> exact { untouched_self w with }
    · exact untouched_self w
  · exact untouched_self w

theorem untouched_saved (w : Window) (number : Nat) (r : Except String Document) : Untouched w (w.saved number r) := by
  unfold saved
  split
  · split
    · exact { untouched_self w with }
    · exact untouched_self w
  · exact untouched_self w

theorem untouched_saveDraft (w : Window) : Untouched w w.saveDraft := by
  unfold saveDraft
  split
  · unfold sendDraft
    split <;> exact { untouched_self w with }
  · exact untouched_self w

/-- Other events leave the preferences alone. -/
theorem untouched_step (w : Window) {e : Event} (he : e.isAboutPreferences = false) : Untouched w (w.step e) := by
  cases e with
  | fetched number r => exact untouched_fetched w number _
  | fetchLost number => exact untouched_fetched w number _
  | saved number r => exact untouched_saved w number _
  | saveLost number => exact untouched_saved w number _
  | saveDraft => exact untouched_saveDraft w
  | openEditor table =>
    simp only [step, openEditor]
    split <;> exact { untouched_self w with }
  | closeDraft =>
    simp only [step, closeDraft]
    split
    · exact { untouched_self w with }
    · exact untouched_self w
  | openPreferences => cases he
  | editPreferences x => cases he
  | savePreferences => cases he
  | closePreferences => cases he
  | _ => exact { untouched_self w with }

/-- From one window to another, the preferences are shown for any time, and other things happen in between. -/
inductive Meanwhile (w : Window) : Window → Prop
  | start : Meanwhile w w
  | shows {v : Window} (h : Meanwhile w v) : Meanwhile w { v with preferences := v.preferences.map Preferences.shown }
  | happens {v : Window} (h : Meanwhile w v) (e : Event) (he : e.isAboutPreferences = false) : Meanwhile w (v.step e)

/-- Until they are saved, opened preferences show the settings, which stay, as the server does. -/
theorem Meanwhile.shows_settings {w v : Window} (h : Meanwhile (w.step .openPreferences) v) :
    Untouched { w with preferences := v.preferences } v ∧ ∃ p, v.preferences = some p ∧ Shows w.settings p := by
  induction h with
  | start => exact ⟨{ untouched_self (w.step .openPreferences) with }, _, rfl, Preferences.shows_ofSettings w.settings⟩
  | @shows v h ih =>
    obtain ⟨huntouched, p, hp, hshows⟩ := ih
    exact ⟨{ huntouched with preferences := rfl }, p.shown, by simp [hp], hshows.shown⟩
  | @happens v h e he ih =>
    obtain ⟨huntouched, p, hp, hshows⟩ := ih
    have hstep := untouched_step v he
    refine ⟨?_, p, hstep.preferences.trans hp, hshows⟩
    exact ⟨hstep.place.trans huntouched.place, hstep.files.trans huntouched.files, hstep.server.trans huntouched.server,
      hstep.serverError.trans huntouched.serverError, hstep.settings.trans huntouched.settings, rfl⟩

/-! ## Saving -/

/-- Whether settings can be saved does not depend on what they are. -/
theorem save_of_writable {s : Settings} {e : Settings.Environment} {fs : Files} (h : ∃ files, s.save e fs = .ok files)
    (t : Settings) : ∃ files, t.save e fs = .ok files := by
  obtain ⟨files, hs⟩ := h
  cases ht : t.save e fs with
  | ok files' => exact ⟨files', rfl⟩
  | error err =>
    rw [Settings.save, Files.write_error ht] at hs
    cases hs

/-- Settings that are read back describe the same server exactly if the key, the source and the port are kept. -/
theorem sameServer_iff {s t : Settings} (h : Reread s t) :
    sameServer s t = true ↔ Kept s.apiKey ∧ Kept s.schemaSource ∧ t.apiPort = s.apiPort := by
  have hsamePart : (serverPart s == serverPart t) = true ↔ Kept s.apiKey ∧ t.apiPort = s.apiPort := by
    rw [beq_iff_eq, serverPart, serverPart, h.enabled, h.bindAddress, h.key, ← Preferences.bind_optional_eq_self_iff]
    simp only [Prod.mk.injEq, true_and]
    exact ⟨fun ⟨hport, hkept⟩ => ⟨hkept.symm, hport.symm⟩, fun ⟨hkept, hport⟩ => ⟨hport.symm, hkept.symm⟩⟩
  unfold sameServer
  rw [Bool.and_eq_true, hsamePart, and_assoc, and_comm (a := t.apiPort = s.apiPort)]
  refine and_congr_right fun _ => and_congr_left fun _ => ?_
  rw [h.source]
  cases s.schemaSource with
  | none => exact ⟨fun _ => nofun, fun _ => rfl⟩
  | some path =>
    rw [← Preferences.bind_optional_eq_self_iff, Option.bind_some, Preferences.optional]
    by_cases hblank : isBlankText path = true
    · simp [hblank]
    · simp [hblank, Path.same_trim_iff]

theorem keepLog_eq (w : Window) : ∃ files, w.keepLog = { w with files } := by
  unfold keepLog
  split
  · exact ⟨_, rfl⟩
  · exact ⟨_, rfl⟩

/-- A restart is about the server, and may make the folder of its log. -/
theorem restartServer_eq (w : Window) : ∃ files serverError, w.restartServer =
    { w with files, serverError, server :=
      if w.settings.apiEnabled then (w.server.stop.start w.settings w.files).2 else w.server.stop } := by
  unfold restartServer
  split
  · next henabled =>
    obtain ⟨r, server⟩ := w.server.stop.start w.settings w.files
    obtain ⟨files, hlog⟩ := keepLog_eq { w with server }
    dsimp only
    split
    · exact ⟨files, none, by rw [hlog]⟩
    · next address reason => exact ⟨files, _, by rw [hlog]⟩
    · next e _ => exact ⟨w.files, _, rfl⟩
  · exact ⟨w.files, none, rfl⟩

section

variable {w v : Window} (hv : Meanwhile (w.step .openPreferences) v)
  (hwritable : ∃ files, w.settings.save w.place.environment w.files = .ok files)
include hv hwritable

/-- Opened preferences that are saved: the settings are read back, written and taken over. -/
theorem savePreferences_eq :
    ∃ p t files, v.preferences = some p ∧ t.apiPort = p.values.apiPort ∧ Reread w.settings t ∧
      t.save w.place.environment w.files = .ok files ∧ v.step .savePreferences = { v with files }.adopt t := by
  obtain ⟨huntouched, p, hp, hshows⟩ := hv.shows_settings
  obtain ⟨t, hread, hport, ht⟩ := hshows.settings?
  obtain ⟨files, hsave⟩ := save_of_writable hwritable t
  refine ⟨p, t, files, hp, hport, ht, hsave, ?_⟩
  have hplace : v.place = w.place := huntouched.place
  have hfiles : v.files = w.files := huntouched.files
  simp only [step, savePreferences, hp, hread, hplace, hfiles, hsave]

end

section

variable (w : Window) (t : Settings)

/-- Settings are taken over and the preferences closed, whatever else starts over. -/
theorem adopt_keeps : (w.adopt t).settings = t ∧ (w.adopt t).preferences = none := by
  unfold adopt
  dsimp only
  split
  · split <;> exact ⟨rfl, rfl⟩
  · obtain ⟨files, serverError, hrestart⟩ := restartServer_eq
      { w with settings := t, scene := w.scene.setConfig t.sceneConfig
               assistant := w.assistant.setTimings t.panelTimings
               preferences := none, notice := some "Preferences saved" }
    rw [hrestart]
    exact ⟨rfl, rfl⟩

/-- Where the settings describe the same server and endpoint, nothing is started. -/
theorem adopt_same (hsame : sameServer w.settings t = true) (hendpoint : t.schemaEndpoint = w.settings.schemaEndpoint) :
    (w.adopt t).server = w.server ∧ (w.adopt t).serverError = w.serverError ∧ (w.adopt t).calls = w.calls ∧
      (w.adopt t).fetch = w.fetch ∧ (w.adopt t).load = w.load := by
  simp [adopt, hsame, hendpoint]

/-- Where they describe another server, it is started in place of the old one, and the schema is fetched again. -/
theorem adopt_other (hother : sameServer w.settings t = false) :
    (w.adopt t).server = (if t.apiEnabled then (w.server.stop.start t w.files).2 else w.server.stop) ∧
      (w.adopt t).calls = w.calls + 1 ∧ (w.adopt t).load = .loading := by
  obtain ⟨files, serverError, hrestart⟩ := restartServer_eq
    { w with settings := t, scene := w.scene.setConfig t.sceneConfig
             assistant := w.assistant.setTimings t.panelTimings
             preferences := none, notice := some "Preferences saved" }
  simp only [adopt, hother, Bool.false_eq_true, if_false, hrestart, reload, and_self]

end

/-- The preferences are opened and, without an edit, saved to a file that can be written; meanwhile they may be shown,
and other things may happen. Then they are closed, the seed is kept, and the key, the source and the log folder are what
their texts are without the blanks at the ends, none if nothing is left; so each of them is kept exactly if it is left
out, or not empty and without such blanks. The port is kept, unless it was 0 and has been shown. If the key, the
source and the port are kept, the server stays and nothing is fetched; otherwise the server is stopped, started
with the new settings if it is enabled, and the schema is fetched again. -/
theorem unedited_kept_iff {w v : Window} (hv : Meanwhile (w.step .openPreferences) v)
    (hwritable : ∃ files, w.settings.save w.place.environment w.files = .ok files) :
    let s := w.settings
    let after := v.step .savePreferences
    let stays := Kept s.apiKey ∧ Kept s.schemaSource ∧ after.settings.apiPort = s.apiPort
    after.preferences = none ∧
    (after.settings.layoutSeed = s.layoutSeed ∧ after.settings.apiKey = s.apiKey.bind optional ∧
      after.settings.schemaSource = s.schemaSource.bind optional ∧
      after.settings.apiLogOverride = s.apiLogOverride.bind optional) ∧
    ((after.settings.apiKey = s.apiKey ↔ Kept s.apiKey) ∧ (after.settings.schemaSource = s.schemaSource ↔ Kept s.schemaSource) ∧
      (after.settings.apiLogOverride = s.apiLogOverride ↔ Kept s.apiLogOverride)) ∧
    ((after.settings.apiPort = s.apiPort ∨ s.apiPort = 0 ∧ after.settings.apiPort = 1) ∧
      (v = w.step .openPreferences → after.settings.apiPort = s.apiPort)) ∧
    (stays → after.server = w.server ∧ after.serverError = w.serverError ∧ after.calls = v.calls ∧
      after.fetch = v.fetch ∧ after.load = v.load) ∧
    (¬ stays → ∃ files, after.settings.save w.place.environment w.files = .ok files ∧
      after.server = (if s.apiEnabled then (w.server.stop.start after.settings files).2 else w.server.stop) ∧
      after.calls = v.calls + 1 ∧ after.load = .loading) := by
  intro s after stays
  obtain ⟨huntouched, -⟩ := hv.shows_settings
  obtain ⟨p, t, files, hp, hport, ht, hsave, hafter⟩ := savePreferences_eq hv hwritable
  obtain ⟨hsettings, hclosed⟩ := adopt_keeps { v with files } t
  rw [← hafter] at hsettings hclosed
  have hold : v.settings = s := huntouched.settings
  have hsame : sameServer s t = true ↔ stays := by
    rw [sameServer_iff ht, ← hsettings]
  refine ⟨hclosed, ?_, ?_, ⟨?_, ?_⟩, fun hstays => ?_, fun hmoves => ?_⟩
  · rw [hsettings]
    exact ⟨ht.seed, ht.key, ht.source, ht.logFolder⟩
  · rw [hsettings, ht.key, ht.source, ht.logFolder]
    exact ⟨Preferences.bind_optional_eq_self_iff, Preferences.bind_optional_eq_self_iff,
      Preferences.bind_optional_eq_self_iff⟩
  · rw [hsettings]
    exact ht.port
  · rintro rfl
    cases hp
    rw [hsettings]
    exact hport
  · have hkept := adopt_same { v with files } t (by rw [hold]; exact hsame.2 hstays) (by rw [hold]; exact ht.endpoint)
    rw [← hafter] at hkept
    exact ⟨hkept.1.trans huntouched.server, hkept.2.1.trans huntouched.serverError, hkept.2.2⟩
  · have hother : sameServer v.settings t = false := by
      rw [hold, ← Bool.not_eq_true, hsame]
      exact hmoves
    obtain ⟨hserver, hfetches⟩ := adopt_other { v with files } t hother
    rw [← hafter] at hserver hfetches
    refine ⟨files, hsettings ▸ hsave, ?_, hfetches⟩
    rw [hserver, hsettings, ht.enabled]
    dsimp only
    rw [huntouched.server]

/-- A window whose server is running. Its preferences are shown, and frames pass, before they are saved. -/
theorem unedited_kept_iff_seeded :
    let s : Settings :=
      { apiEnabled := true, apiKey := some "s3 cret", schemaSource := some "/data/shop.json"
        layoutSeed := some 18446744073709551615 }
    let served : Service := { store := some .empty, key := some "s3 cret" }
    let w : Window := .new ⟨{ configHome := some "/c" }, "/tmp"⟩ {} { running := some served } s (.ofSeed 7)
    let opened := w.step .openPreferences
    let v := { opened with preferences := opened.preferences.map Preferences.shown }.step (.frame 16)
    let after := v.step .savePreferences
    Meanwhile opened v ∧ (∃ files, s.save w.place.environment w.files = .ok files) ∧ after.preferences = none ∧
      after.settings.layoutSeed = some 18446744073709551615 ∧ after.settings.apiKey = some "s3 cret" ∧
      after.settings.schemaSource = some "/data/shop.json" ∧ after.settings.apiLogOverride = none ∧
      after.server.running = some served ∧ after.calls = 1 := by
  intro s served w opened v after
  have hv : Meanwhile opened v := .happens (.shows .start) _ rfl
  have hwritable : ∃ files, s.save w.place.environment w.files = .ok files := by
    have hok : (s.save w.place.environment w.files).isOk = true := by decide +kernel
    cases hsave : s.save w.place.environment w.files with
    | ok files => exact ⟨files, rfl⟩
    | error err =>
      rw [hsave] at hok
      cases hok
  obtain ⟨hclosed, ⟨hseed, -⟩, ⟨hkey, hsource, hlog⟩, ⟨hport, -⟩, hstays, -⟩ := unedited_kept_iff hv hwritable
  have hkeptKey : Kept s.apiKey := Preferences.bind_optional_eq_self_iff.1 (by decide +kernel)
  have hkeptSource : Kept s.schemaSource := Preferences.bind_optional_eq_self_iff.1 (by decide +kernel)
  have hkeptPort : after.settings.apiPort = s.apiPort := hport.resolve_right fun h => absurd h.1 (by decide)
  obtain ⟨hserver, -, hcalls, -⟩ := hstays ⟨hkeptKey, hkeptSource, hkeptPort⟩
  exact ⟨hv, hwritable, hclosed, hseed, hkey.2 hkeptKey, hsource.2 hkeptSource, hlog.2 nofun,
    congrArg Server.running hserver, hcalls⟩

theorem exists_ok_of_any {ε α : Type} {r : Except ε α} {p : α → Prop} [DecidablePred p]
    (h : (r.toOption.any fun a => decide (p a)) = true) : ∃ a, r = .ok a ∧ p a := by
  cases r with
  | error e => cases h
  | ok a => exact ⟨a, rfl, of_decide_eq_true h⟩

/-- Settings that are read from a text. The key loses its blanks, the empty log folder is left out, and the server is
started again with another key. -/
theorem unedited_blanks_lost :
    let files : Files := { plain := [(["data", "shop.json"], some "\x7b\"tables\":\x7b\x7d,\"relationships\":[]\x7d")] }
    let served : Service := { store := some .empty, key := some " k " }
    let opened (s : Settings) : Window :=
      (Window.new ⟨{ configHome := some "/c" }, "/tmp"⟩ files { running := some served } s (.ofSeed 7)).step .openPreferences
    let after (s : Settings) : Window := (opened s).step .savePreferences
    ∃ s, Settings.parse ("\x7b\"api_key\":\" k \",\"api_enabled\":true,\"schema_source\":\"/data/shop.json\"," ++
        "\"api_log_override\":\"\"\x7d") = .ok s ∧
      s.apiKey = some " k " ∧ s.apiLogOverride = some "" ∧
      (after s).notice = some "Preferences saved" ∧
      (after s).settings.apiKey = some "k" ∧ (after s).settings.apiLogOverride = none ∧
      (after s).server.running.map (·.key) = some (some "k") ∧ (after s).calls = (opened s).calls + 1 := by
  intro files served opened after
  refine exists_ok_of_any ?_
  decide +kernel

end Window
end SchemaAtlas
