import SchemaAtlas.Settings
/-!
# Preferences

What the preferences window edits: a copy of the settings, and texts for those settings
that may be left out. An empty text stands for a setting that is left out.
-/

namespace SchemaAtlas

open Text (trim isBlankText)

/-- The contents of the preferences window. -/
structure Preferences where
  values : Settings
  source : String
  logFolder : String
  seed : String
  key : String
  /-- Why the preferences could not be saved. -/
  status : Option String := none

namespace Preferences

/-- The contents of a freshly opened window. -/
def ofSettings (s : Settings) : Preferences where
  values := s
  source := s.schemaSource.getD ""
  logFolder := s.apiLogOverride.getD ""
  seed := (s.layoutSeed.map fun n => Decimal.text n.toNat).getD ""
  key := s.apiKey.getD ""

/-- Changes in the window. -/
inductive Edit
  | endpoint (s : String)
  | key (s : String)
  | radius (x : Float32)
  | jitter (x : Float32)
  | seed (s : String)
  | particles (n : UInt64)
  | openDelay (n : UInt64)
  | closeDelay (n : UInt64)
  | shift (x : Float32)
  | toggleServing
  | bindAddress (s : String)
  | portNumber (n : UInt16)
  | source (s : String)
  | logFolder (s : String)

/-- Performs a change. -/
def apply (p : Preferences) : Edit → Preferences
  | .endpoint s => { p with values.schemaEndpoint := s }
  | .key s => { p with key := s }
  | .radius x => { p with values.layoutRadius := x }
  | .jitter x => { p with values.layoutJitter := x }
  | .seed s => { p with seed := s }
  | .particles n => { p with values.particleCount := n }
  | .openDelay n => { p with values.panelOpenDelay := n }
  | .closeDelay n => { p with values.panelCloseDelay := n }
  | .shift x => { p with values.callBarShift := x }
  | .toggleServing => { p with values.apiEnabled := !p.values.apiEnabled }
  | .bindAddress s => { p with values.apiBindAddress := s }
  | .portNumber n => { p with values.apiPort := n }
  | .source s => { p with source := s }
  | .logFolder s => { p with logFolder := s }

/-- A number moved into a range. -/
def within (low high x : Float32) : Float32 := if x ≤ low then low else if high ≤ x then high else x

/-- The preferences as they are once shown: sliders and number fields move their values
into their ranges. -/
def shown (p : Preferences) : Preferences :=
  let v := p.values
  { p with values :=
    { v with layoutRadius := within 5 100 v.layoutRadius
             layoutJitter := within 0 30 v.layoutJitter
             particleCount := min v.particleCount 5000
             panelOpenDelay := min v.panelOpenDelay 1000
             panelCloseDelay := min v.panelCloseDelay 2000
             callBarShift := within 0 100 v.callBarShift
             apiPort := max v.apiPort 1 } }

/-- The setting of a text: its trimmed form, or none if it is blank. -/
def optional (s : String) : Option String := if isBlankText s then none else some (trim s)

/-- The seed of a text; `none` if the text is no whole number of 64 bits. -/
def seed? (s : String) : Option (Option UInt64) :=
  if isBlankText s then some none
  else (Decimal.below? (Nat.pow 2 64) (Text.trimChars s.toList)).map fun n => some (.ofNat n)

/-- What is reported about a seed that cannot be read. -/
def seedMessage : String := "Layout seed must be a whole number"

/-- The settings that the contents stand for. -/
def settings? (p : Preferences) : Option Settings :=
  (seed? p.seed).map fun layoutSeed =>
    { p.values with layoutSeed, schemaSource := optional p.source
                    apiLogOverride := optional p.logFolder, apiKey := optional p.key }

end Preferences
end SchemaAtlas
