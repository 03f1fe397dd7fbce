import SchemaAtlas.Command
import SchemaAtlas.Proofs.Document.Reading
/-!
# Written documents load again

What the command `import` prints is the imported document followed by a line end
(`run_importDump`), on one line or on several, and either text loads as the document
(`load_of_shown`). Together with documents and updates read back from their own texts this
is `json_round_trip`.
-/

namespace SchemaAtlas

open Json (parse_line)

/-! ## What is shown loads -/

theorem Document.parse_shown (d : Document) (compact : Bool) :
    Document.parse (Command.showJson d compact).out = .ok d := by
  unfold Command.showJson
  cases compact with
  | true => exact (parse_line (d.toJson.reads_compact d.exact_toJson) _).trans d.decode_tree
  | false => exact (parse_line (d.toJson.reads_pretty d.exact_toJson 0) _).trans d.decode_tree

/-- A file that is no dump, with a shown document in it, loads as the document. -/
theorem Source.load_of_shown {fs : Files} {path : String} {d : Document} {compact : Bool}
    (hpath : isDump path = false) (hread : fs.read path = .ok (Command.showJson d compact).out) :
    load fs path = .ok d := by
  have htext : text fs path = .ok (Command.showJson d compact).out := by
    simp only [text, hread]
  have hdoc : Document.read (Command.showJson d compact).out = .ok d := Document.read_of_parse (d.parse_shown compact)
  simp only [load, hpath, htext, Bool.false_eq_true, if_false]
  exact congrArg (·.mapError Source.Error.decode) hdoc

/-! ## What is imported -/

/-- A dump that can be read is imported and shown. -/
theorem Command.run_importDump {s : Setting} {file text : String} (h : s.files.read file = .ok text)
    (compact : Bool) : run s (.importDump file compact) = showJson (Dump.document text) compact := by
  have hsource : Source.loadDump s.files file = .ok (Dump.document text) := by
    simp only [Source.loadDump, Source.text, h]
    rfl
  have hload : loadDump s file = .ok (Dump.document text) := by
    simp only [loadDump, hsource]
  simp only [run, hload, onDocument]

theorem TableUpdate.parse_pretty (u : TableUpdate) : TableUpdate.parse u.toJson.pretty = .ok u :=
  (Json.parse_pretty u.exact_toJson _).trans u.decode_tree

/-- Documents and updates are read back from their texts, whatever names, types, lists and
revisions they hold. What `import` prints for a dump, stored in a file that is no dump, loads
as the imported document. -/
theorem json_round_trip :
    (∀ d : Document, Document.parse d.toJson.compact = .ok d ∧ Document.parse d.toJson.pretty = .ok d) ∧
    (∀ u : TableUpdate,
      TableUpdate.parse u.toJson.compact = .ok u ∧ TableUpdate.parse u.toJson.pretty = .ok u) ∧
    ∀ (s : Command.Setting) (file dump : String) (compact : Bool), s.files.read file = .ok dump →
      let shown := Command.run s (.importDump file compact)
      shown.code = 0 ∧ ∀ (fs : Files) (path : String), Source.isDump path = false →
        fs.read path = .ok shown.out → Source.load fs path = .ok (Dump.document dump) := by
  refine ⟨fun d => ⟨d.parse_compact, d.parse_pretty⟩, fun u => ⟨u.parse_compact, u.parse_pretty⟩, ?_⟩
  intro s file dump compact hfile shown
  have hshown : shown = Command.showJson (Dump.document dump) compact := Command.run_importDump hfile compact
  refine ⟨by rw [hshown]; rfl, fun fs path hpath hread => ?_⟩
  rw [hshown] at hread
  exact Source.load_of_shown hpath hread

/-- A dump with quotes and a letter beyond ASCII in a type, imported into a JSON file. -/
theorem json_round_trip_shop :
    let dump := "CREATE TABLE `shop` (`id` INT, `city` VARCHAR(9) DEFAULT '\"Köln\"', PRIMARY KEY (`id`));"
    let s : Command.Setting := ⟨{ plain := [(["shop.sql"], some dump)] }, {}, .silent⟩
    let shown := Command.run s (.importDump "shop.sql" false)
    let fs : Files := { plain := [(["out", "shop.json"], some shown.out)] }
    s.files.read "shop.sql" = .ok dump ∧ Source.isDump "out/shop.json" = false ∧
      fs.read "out/shop.json" = .ok shown.out ∧ Source.load fs "out/shop.json" = .ok (Dump.document dump) := by
  intro dump s shown fs
  have located : ∀ {fs : Files} {path : String} {place : List String},
      (fs.locate path).toOption = some place → fs.locate path = .ok place := by
    intro fs path place h
    cases hl : fs.locate path <;> simp_all [Except.toOption]
  have hdump : s.files.read "shop.sql" = .ok dump := by
    have hplace : (s.files.locate "shop.sql").toOption = some ["shop.sql"] := by decide +kernel
    rw [Files.read, located hplace]
    rfl
  have hpath : Source.isDump "out/shop.json" = false := by decide +kernel
  have hshown : fs.read "out/shop.json" = .ok shown.out := by
    have hplace : (fs.locate "out/shop.json").toOption = some ["out", "shop.json"] := by decide +kernel
    rw [Files.read, located hplace]
    rfl
  exact ⟨hdump, hpath, hshown, (json_round_trip.2.2 s "shop.sql" dump false hdump).2 fs _ hpath hshown⟩

end SchemaAtlas
