import SchemaAtlas.Document.Json
import SchemaAtlas.Proofs.Document.Catalog
import SchemaAtlas.Proofs.Json.Reading
/-!
# Documents read back

Each kind of record decodes the tree of its own JSON form to the record it was written
from. So the text of a document, on one line or on several, reads as the document
(`Document.parse_compact`, `Document.parse_pretty`), and that of an update as the update
(`TableUpdate.parse_compact`).
-/

namespace SchemaAtlas

open Json (Value Decoder Record slot)

/-! ## Lists and maps -/

namespace Json

variable {α : Type}

theorem list_tree {f : Decoder α} {g : α → Value} (h : ∀ a, f (g a).tree = .ok a) (as : List α) :
    list f (Value.array (as.map g)).tree = .ok as := by
  simp only [Value.tree, list]
  induction as with
  | nil => rfl
  | cons a as ih =>
    simp only [List.map_cons, itemsTree, Items.decode, h, ih]
    rfl

theorem map_tree {f : Decoder α} {g : α → Value} (h : ∀ a, f (g a).tree = .ok a) (es : List (String × α)) :
    map f (Value.object (es.map fun e => (e.1, g e.2))).tree = .ok es := by
  simp only [Value.tree, map]
  induction es with
  | nil => rfl
  | cons e es ih =>
    simp only [List.map_cons, membersTree, Members.decode, Word.read, h, ih]
    rfl

theorem exactItems_map {g : α → Value} (h : ∀ a, (g a).Exact) (as : List α) : ExactItems (as.map g) := by
  induction as with
  | nil => trivial
  | cons a as ih => exact ⟨h a, ih⟩

theorem exactMembers_map {g : α → Value} (h : ∀ a, (g a).Exact) (es : List (String × α)) :
    ExactMembers (es.map fun e => (e.1, g e.2)) := by
  induction es with
  | nil => trivial
  | cons e es ih => exact ⟨h e.2, ih⟩

theorem text_tree (s : String) : text (Value.string s).tree = .ok s := rfl

theorem bool_tree (b : Bool) : bool (Value.bool b).tree = .ok b := rfl

theorem word64_tree (n : UInt64) : word64 (Value.natural n.toNat).tree = .ok n := by
  simp only [Value.tree, word64, word]
  rw [if_pos (show n.toNat < Nat.pow 2 64 from n.toNat_lt)]
  simp [Except.map]

theorem exact_word64 (n : UInt64) : (Value.natural n.toNat).Exact := by
  simp only [Value.Exact, maxWord]
  exact Nat.le_sub_one_of_lt n.toNat_lt

end Json

/-! ## Records -/

/-- What succeeds in steps succeeded in its first one. -/
theorem ok_of_bind {ε α β : Type} {x : Except ε α} {f : α → Except ε β} {b : β} (h : x >>= f = .ok b) :
    ∃ a, x = .ok a ∧ f a = .ok b := by
  cases x with
  | error e => cases h
  | ok a => exact ⟨a, rfl, h⟩

namespace Json.Record

variable {α β : Type}

variable {slots : List (Slot α)} {seen : List String} {a : α} {k : String} {v : Value} {ms : List (String × Value)}
  {required : Bool} {f : Decoder β} {set : β → α → α}

/-- A member under the name of a field that was not seen before is decoded, and the rest after it. -/
theorem ofMembers_bind (hk : slots.find? (·.name == k) = some (slot k required f set)) (hs : k ∉ seen) :
    ofMembers slots seen a (membersTree ((k, v) :: ms)) =
      f v.tree >>= fun b => ofMembers slots (k :: seen) (set b a) (membersTree ms) := by
  simp only [membersTree, ofMembers, Word.read, slot] at hk ⊢
  cases hf : f v.tree <;> simp [hk, hs, hf, bind, Except.bind, Except.map]

/-- A member under the name of a field that was not seen before fills the field. -/
theorem ofMembers_slot {b : β} (hk : slots.find? (·.name == k) = some (slot k required f set)) (hs : k ∉ seen)
    (hf : f v.tree = .ok b) :
    ofMembers slots seen a (membersTree ((k, v) :: ms)) =
      ofMembers slots (k :: seen) (set b a) (membersTree ms) := by
  rw [ofMembers_bind hk hs, hf]
  rfl

end Json.Record

open Json Json.Record

theorem Field.decode_tree (f : Field) : Field.record.decode f.toJson.tree = .ok f := by
  simp only [Field.toJson, Value.tree, Record.decode]
  rw [ofMembers_slot rfl (by simp) (text_tree f.name), ofMembers_slot rfl (by simp) (text_tree f.type),
    ofMembers_slot rfl (by simp) (bool_tree f.isPrimary)]
  rfl

theorem ForeignKey.decode_tree (k : ForeignKey) : ForeignKey.record.decode k.toJson.tree = .ok k := by
  simp only [ForeignKey.toJson, Value.tree, Record.decode]
  rw [ofMembers_slot rfl (by simp) (text_tree k.field),
    ofMembers_slot rfl (by simp) (text_tree k.referencesTable),
    ofMembers_slot rfl (by simp) (text_tree k.referencesField)]
  rfl

theorem Relationship.decode_tree (r : Relationship) : Relationship.record.decode r.toJson.tree = .ok r := by
  simp only [Relationship.toJson, Value.tree, Record.decode]
  rw [ofMembers_slot rfl (by simp) (text_tree r.fromTable), ofMembers_slot rfl (by simp) (text_tree r.fromField),
    ofMembers_slot rfl (by simp) (text_tree r.toTable), ofMembers_slot rfl (by simp) (text_tree r.toField)]
  rfl

theorem FieldRename.decode_tree (r : FieldRename) : FieldRename.record.decode r.toJson.tree = .ok r := by
  simp only [FieldRename.toJson, Value.tree, Record.decode]
  rw [ofMembers_slot rfl (by simp) (text_tree r.source), ofMembers_slot rfl (by simp) (text_tree r.target)]
  rfl

/-- Without foreign keys the member is left out, and the table starts without them. -/
theorem Table.decode_tree (t : Table) : Table.record.decode t.toJson.tree = .ok t := by
  obtain ⟨fields, keys⟩ := t
  simp only [Table.toJson, Value.tree, Record.decode]
  rw [ofMembers_slot rfl (by simp) (list_tree Field.decode_tree fields)]
  cases keys with
  | nil => rfl
  | cons k ks =>
    simp only [List.isEmpty_cons, Bool.false_eq_true, if_false]
    rw [ofMembers_slot rfl (by simp) (list_tree ForeignKey.decode_tree (k :: ks))]
    rfl

theorem Document.decode_tree (d : Document) : Document.record.decode d.toJson.tree = .ok d := by
  simp only [Document.toJson, Value.tree, Record.decode]
  rw [ofMembers_slot rfl (by simp) (map_tree Table.decode_tree d.tables.entries),
    ofMembers_slot rfl (by simp) (list_tree Relationship.decode_tree d.relationships),
    ofMembers_slot rfl (by simp) (word64_tree d.revision), Catalog.ofList_entries]
  rfl

/-- Without renames the member is left out, and the update starts without them. -/
theorem TableUpdate.decode_tree (u : TableUpdate) : TableUpdate.record.decode u.toJson.tree = .ok u := by
  obtain ⟨name, fields, revision, renames⟩ := u
  simp only [TableUpdate.toJson, Value.tree, Record.decode, List.cons_append, List.nil_append]
  rw [ofMembers_slot rfl (by simp) (text_tree name),
    ofMembers_slot rfl (by simp) (list_tree Field.decode_tree fields),
    ofMembers_slot rfl (by simp) (word64_tree revision)]
  cases renames with
  | nil => rfl
  | cons r rs =>
    simp only [List.isEmpty_cons, Bool.false_eq_true, if_false]
    rw [ofMembers_slot rfl (by simp) (list_tree FieldRename.decode_tree (r :: rs))]
    rfl

/-! ## Texts -/

theorem Field.exact_toJson (f : Field) : f.toJson.Exact := ⟨trivial, trivial, trivial, trivial⟩

theorem ForeignKey.exact_toJson (k : ForeignKey) : k.toJson.Exact := ⟨trivial, trivial, trivial, trivial⟩

theorem Relationship.exact_toJson (r : Relationship) : r.toJson.Exact :=
  ⟨trivial, trivial, trivial, trivial, trivial⟩

theorem FieldRename.exact_toJson (r : FieldRename) : r.toJson.Exact := ⟨trivial, trivial, trivial⟩

theorem Table.exact_toJson (t : Table) : t.toJson.Exact := by
  refine ⟨Json.exactItems_map Field.exact_toJson t.fields, ?_⟩
  split
  · trivial
  · exact ⟨Json.exactItems_map ForeignKey.exact_toJson t.foreignKeys, trivial⟩

theorem Document.exact_toJson (d : Document) : d.toJson.Exact :=
  ⟨Json.exactMembers_map Table.exact_toJson d.tables.entries,
    Json.exactItems_map Relationship.exact_toJson d.relationships,
    Json.exact_word64 d.revision, trivial⟩

theorem TableUpdate.exact_toJson (u : TableUpdate) : u.toJson.Exact := by
  refine ⟨trivial, Json.exactItems_map Field.exact_toJson u.fields, Json.exact_word64 u.baseRevision, ?_⟩
  split
  · trivial
  · exact ⟨Json.exactItems_map FieldRename.exact_toJson u.renames, trivial⟩

/-- A document is read back from its text on one line. -/
theorem Document.parse_compact (d : Document) : Document.parse d.toJson.compact = .ok d :=
  (Json.parse_compact d.exact_toJson _).trans d.decode_tree

/-- A document is read back from its text on several lines. -/
theorem Document.parse_pretty (d : Document) : Document.parse d.toJson.pretty = .ok d :=
  (Json.parse_pretty d.exact_toJson _).trans d.decode_tree

theorem Document.read_of_parse {s : String} {d : Document} (h : Document.parse s = .ok d) :
    Document.read s = .ok d := by
  rw [Document.read, h]
  rfl

/-- An update is read back from its text. -/
theorem TableUpdate.parse_compact (u : TableUpdate) : TableUpdate.parse u.toJson.compact = .ok u :=
  (Json.parse_compact u.exact_toJson _).trans u.decode_tree

end SchemaAtlas
