import SchemaAtlas.Settings
import SchemaAtlas.Proofs.Document.Reading
import SchemaAtlas.Proofs.Files.Writing
import SchemaAtlas.Proofs.Json.Reals
/-!
# Settings loaded again

Saved settings are loaded as they are, in all their fields and to the last bit of their numbers, unless a
number in single precision is too large to be finite: it is accepted when settings are read, but saved as
`null`, which is not a number (`save_load_iff`). Whether settings can be saved depends on the files only.
-/

namespace SchemaAtlas

open Json (Value Record)

namespace Json

/-- Only finite numbers are decoded from their own text. -/
theorem isFinite_of_single {x y : Float32} (h : single (Value.real x).tree = .ok y) :
    (Decimal.single x).isFinite = true := by
  by_contra hx
  rw [single_tree_of_infinite (Bool.not_eq_true _ ▸ hx)] at h
  cases h

end Json

open Json.Record (ofMembers_bind ofMembers_slot)

namespace Settings

/-- All numbers in single precision are finite. -/
def finite (s : Settings) : Bool :=
  (Decimal.single s.layoutRadius).isFinite && (Decimal.single s.layoutJitter).isFinite &&
    (Decimal.single s.callBarShift).isFinite

/-! ## The text of settings -/

theorem optional_text (t : Option String) : Json.optional Json.text (textOrNull t).tree = .ok t := by
  cases t <;> rfl

theorem optional_path (t : Option String) : Json.optional (Json.textAs "path string") (textOrNull t).tree = .ok t := by
  cases t <;> rfl

/-- The seed is a number or `null`. -/
theorem toJson_eq (s : Settings) :
    ∃ seed : Value, seed.Exact ∧ Json.optional Json.word64 seed.tree = .ok s.layoutSeed ∧ s.toJson =
      .object
        [ ("schema_endpoint", .string s.schemaEndpoint),
          ("api_enabled", .bool s.apiEnabled),
          ("api_bind_addr", .string s.apiBindAddress),
          ("api_port", .natural s.apiPort.toNat),
          ("api_key", textOrNull s.apiKey),
          ("schema_source", textOrNull s.schemaSource),
          ("api_log_override", textOrNull s.apiLogOverride),
          ("layout_radius", .real s.layoutRadius),
          ("layout_jitter", .real s.layoutJitter),
          ("layout_seed", seed),
          ("particle_count", .natural s.particleCount.toNat),
          ("panel_open_delay_ms", .natural s.panelOpenDelay.toNat),
          ("panel_close_delay_ms", .natural s.panelCloseDelay.toNat),
          ("call_bar_shift", .real s.callBarShift) ] := by
  unfold toJson
  cases s.layoutSeed with
  | none => exact ⟨.null, trivial, rfl, rfl⟩
  | some n => exact ⟨.natural n.toNat, Json.exact_word64 n, congrArg (Except.map some) (Json.word64_tree n), rfl⟩

theorem port_tree (n : UInt16) : Json.word 16 "u16" (Value.natural n.toNat).tree = .ok n.toNat := if_pos n.toNat_lt

theorem count_tree (n : UInt64) : Json.word 64 "usize" (Value.natural n.toNat).tree = .ok n.toNat := if_pos n.toNat_lt

/-- All that the decoding of settings depends on are the three numbers in single precision. -/
theorem decode_eq (s : Settings) :
    record.decode s.toJson.tree = (do
      let radius ← Json.single (Value.real s.layoutRadius).tree
      let jitter ← Json.single (Value.real s.layoutJitter).tree
      let shift ← Json.single (Value.real s.callBarShift).tree
      return { s with layoutRadius := radius, layoutJitter := jitter, callBarShift := shift }) := by
  obtain ⟨seed, -, hseed, hjson⟩ := s.toJson_eq
  simp only [hjson, Value.tree, Record.decode]
  rw [ofMembers_slot rfl (by simp) (Json.text_tree s.schemaEndpoint),
    ofMembers_slot rfl (by simp) (Json.bool_tree s.apiEnabled),
    ofMembers_slot rfl (by simp) (Json.text_tree s.apiBindAddress),
    ofMembers_slot rfl (by simp) (port_tree s.apiPort), ofMembers_slot rfl (by simp) (optional_text s.apiKey),
    ofMembers_slot rfl (by simp) (optional_path s.schemaSource),
    ofMembers_slot rfl (by simp) (optional_path s.apiLogOverride), ofMembers_bind rfl (by simp)]
  refine congrArg _ (funext fun radius => ?_)
  rw [ofMembers_bind rfl (by simp)]
  refine congrArg _ (funext fun jitter => ?_)
  rw [ofMembers_slot rfl (by simp) hseed, ofMembers_slot rfl (by simp) (count_tree s.particleCount),
    ofMembers_slot rfl (by simp) (Json.word64_tree s.panelOpenDelay),
    ofMembers_slot rfl (by simp) (Json.word64_tree s.panelCloseDelay), ofMembers_bind rfl (by simp)]
  simp only [UInt16.ofNat_toNat, UInt64.ofNat_toNat]
  rfl

theorem decode_tree {s : Settings} (h : s.finite = true) : record.decode s.toJson.tree = .ok s := by
  simp only [finite, Bool.and_eq_true] at h
  obtain ⟨⟨hradius, hjitter⟩, hshift⟩ := h
  rw [decode_eq, Json.single_tree hradius, Json.single_tree hjitter, Json.single_tree hshift]
  rfl

theorem finite_of_decode {s r : Settings} (h : record.decode s.toJson.tree = .ok r) : s.finite = true := by
  rw [decode_eq] at h
  obtain ⟨_, hradius, h⟩ := ok_of_bind h
  obtain ⟨_, hjitter, h⟩ := ok_of_bind h
  obtain ⟨_, hshift, -⟩ := ok_of_bind h
  simp only [finite, Json.isFinite_of_single hradius, Json.isFinite_of_single hjitter, Json.isFinite_of_single hshift,
    Bool.and_self]

theorem exact_textOrNull (t : Option String) : (textOrNull t).Exact := by
  cases t <;> trivial

theorem exact_port (n : UInt16) : (Value.natural n.toNat).Exact :=
  le_trans n.toNat_lt.le (show 2 ^ 16 ≤ Json.maxWord by decide)

theorem exact_toJson (s : Settings) : s.toJson.Exact := by
  obtain ⟨seed, hseed, -, hjson⟩ := s.toJson_eq
  rw [hjson]
  exact ⟨trivial, trivial, trivial, exact_port _, exact_textOrNull _, exact_textOrNull _, exact_textOrNull _,
    Json.exact_real _, Json.exact_real _, hseed, Json.exact_word64 _, Json.exact_word64 _, Json.exact_word64 _,
    Json.exact_real _, trivial⟩

/-- The text of settings is read as the settings, if their numbers are finite. -/
theorem parse_pretty_iff {s r : Settings} : parse s.toJson.pretty = .ok r ↔ s.finite = true ∧ r = s := by
  rw [parse, Json.parse_pretty s.exact_toJson]
  constructor
  · intro h
    have hfinite := finite_of_decode h
    rw [decode_tree hfinite] at h
    cases h
    exact ⟨hfinite, rfl⟩
  · rintro ⟨hfinite, rfl⟩
    exact decode_tree hfinite

/-! ## The file of settings -/

theorem isName_fileName : Path.IsName fileName := ⟨by decide, by decide, by decide, by decide⟩

/-- What is loaded after settings were saved is what their text is read as. -/
theorem load_of_save {s r : Settings} {e : Environment} {fs fs' : Files} (h : s.save e fs = .ok fs') :
    load e fs' = .ok r ↔ parse s.toJson.pretty = .ok r := by
  obtain ⟨hhas, hread⟩ := Files.read_of_write isName_fileName h
  simp only [load, hhas, if_true, hread]
  cases parse s.toJson.pretty with
  | error err => exact ⟨nofun, nofun⟩
  | ok t => exact ⟨fun ht => congrArg _ (Except.ok.inj ht), fun ht => congrArg _ (Except.ok.inj ht)⟩

/-- Settings are loaded as they were saved if and only if their numbers are finite; otherwise the file that
was saved is refused. If they cannot be saved, no settings can. -/
theorem save_load_iff (s : Settings) (e : Environment) (fs : Files) :
    (∃ err, ∀ t : Settings, t.save e fs = .error err) ∨
      ∃ fs', s.save e fs = .ok fs' ∧ ∀ r, load e fs' = .ok r ↔ s.finite = true ∧ r = s := by
  cases hsave : s.save e fs with
  | error err => exact .inl ⟨err, fun t => Files.write_error hsave _⟩
  | ok fs' =>
    exact .inr ⟨fs', rfl, fun r => (load_of_save hsave).trans parse_pretty_iff⟩

/-- A radius that is too large is accepted, and the file that is saved with it is refused. -/
theorem large_radius_lost :
    ∃ s fs, parse "\x7b\"layout_radius\":1e39\x7d" = .ok s ∧ s.save { configHome := some "/c" } {} = .ok fs ∧
      ∀ r, load { configHome := some "/c" } fs ≠ .ok r := by
  have hparse : (match parse "\x7b\"layout_radius\":1e39\x7d" with
      | .ok s => !s.finite
      | .error _ => false) = true := by decide +kernel
  split at hparse
  · next s hs =>
    cases hsave : s.save { configHome := some "/c" } {} with
    | error err =>
      have hwritable : (Files.write {} (folder { configHome := some "/c" }) fileName "").isOk = true := by decide +kernel
      rw [Files.write_error hsave] at hwritable
      cases hwritable
    | ok fs =>
      refine ⟨s, fs, hs, hsave, fun r hr => ?_⟩
      rw [(parse_pretty_iff.1 ((load_of_save hsave).1 hr)).1] at hparse
      cases hparse
  · cases hparse

end Settings
end SchemaAtlas
