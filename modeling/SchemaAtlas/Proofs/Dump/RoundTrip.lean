import Mathlib.Data.List.Nodup
import SchemaAtlas.Proofs.Document.Catalog
import SchemaAtlas.Proofs.Dump.Lines
/-!
# A printed dump is read back

Printing the tables of a document and reading the dump gives the tables again, in the same order,
with one relationship for each foreign key. The reading of one statement is independent of what
follows it (`firstStatement?_tableText`), and what stands between two statements is passed over
(`statements_append`), so a dump is read statement by statement (`statements_print`).
-/

namespace SchemaAtlas.Dump

open Text

/-! ## Tables that can be printed -/

/-- The characters of a table's name: letters and digits, the underscore and the dollar sign. -/
def isTableChar (c : Char) : Bool :=
  ('A' ≤ c && c ≤ 'Z') || ('a' ≤ c && c ≤ 'z') || ('0' ≤ c && c ≤ '9') || c == '_' || c == '$'

/-- A table that can be printed. -/
structure Printable (t : Table) : Prop where
  /-- No two columns share a name. -/
  distinct : (t.fields.map Field.name).Nodup
  names : ∀ f ∈ t.fields, IsName isColumnChar f.name
  types : ∀ f ∈ t.fields, IsType f.type
  keys : ∀ k ∈ t.foreignKeys, IsKey k

instance (t : Table) : Decidable (Printable t) :=
  decidable_of_iff ((t.fields.map Field.name).Nodup ∧ (∀ f ∈ t.fields, IsName isColumnChar f.name) ∧
    (∀ f ∈ t.fields, IsType f.type) ∧ ∀ k ∈ t.foreignKeys, IsKey k)
    ⟨fun ⟨a, b, c, d⟩ => ⟨a, b, c, d⟩, fun ⟨a, b, c, d⟩ => ⟨a, b, c, d⟩⟩

theorem toNat_of_isTableChar {c : Char} (h : isTableChar c = true) : c.toNat < 0x80 := by
  simp only [isTableChar, Bool.or_eq_true, Bool.and_eq_true, decide_eq_true_eq, beq_iff_eq] at h
  rcases h with (((h | h) | h) | rfl) | rfl
  · exact Nat.lt_of_le_of_lt (UInt32.le_iff_toNat_le.1 h.2) (by decide)
  · exact Nat.lt_of_le_of_lt (UInt32.le_iff_toNat_le.1 h.2) (by decide)
  · exact Nat.lt_of_le_of_lt (UInt32.le_iff_toNat_le.1 h.2) (by decide)
  · decide
  · decide

/-- A header's name is read to its end. -/
theorem isNameChar_of_isTableChar {c : Char} (h : isTableChar c = true) : isNameChar c = true := by
  have hascii : ∀ n < 0x80, isTableChar (Char.ofNat n) = true → isNameChar (Char.ofNat n) = true := by
    decide
  have hc := hascii c.toNat (toNat_of_isTableChar h)
  rw [Char.ofNat_toNat] at hc
  exact hc h

/-! ## The clauses of a printed table -/

/-- The clause of a primary key, if it has any column. -/
def keyClause? (names : List String) : Option Clause := if names = [] then none else some (.primaryKey names)

/-- What a printed table declares: its columns, none of them primary by its type, the primary key
and the foreign keys. -/
def printedClauses (t : Table) : List Clause :=
  t.fields.map (fun f => .column { f with isPrimary := false }) ++ (keyClause? (primaryNames t.fields)).toList ++
    t.foreignKeys.map .foreignKey

theorem declares_primaryKeyLine {t : Table} (h : Printable t) :
    List.Forall₂ Declares (primaryKeyLine? t.fields).toList (keyClause? (primaryNames t.fields)).toList := by
  have hnames : ∀ n ∈ primaryNames t.fields, IsName isColumnChar n := by
    intro n hn
    obtain ⟨f, hf, rfl⟩ := List.mem_map.1 hn
    exact h.names f (List.mem_of_mem_filter hf)
  rw [primaryKeyLine?_eq, keyClause?]
  split
  · exact .nil
  · next hne => exact .cons (declares_keyText hne hnames) .nil

theorem declares_bodyLines {t : Table} (h : Printable t) :
    List.Forall₂ Declares (bodyLines t) (printedClauses t) := by
  refine List.rel_append (List.rel_append ?_ (declares_primaryKeyLine h)) ?_
  · rw [List.forall₂_map_left_iff, List.forall₂_map_right_iff, List.forall₂_same]
    exact fun f hf => declares_columnLine (h.names f hf) (h.types f hf)
  · rw [List.forall₂_map_left_iff, List.forall₂_map_right_iff, List.forall₂_same]
    exact fun k hk => declares_foreignKeyLine (h.keys k hk)

/-! ## One statement -/

/-- The words that start a statement. -/
def createText : List Char := ['C', 'R', 'E', 'A', 'T', 'E', ' ', 'T', 'A', 'B', 'L', 'E', ' ']

/-- The end of a statement, behind the parenthesis that closes its body. -/
def engineText : List Char :=
  [' ', 'E', 'N', 'G', 'I', 'N', 'E', '=', 'I', 'n', 'n', 'o', 'D', 'B', ';', '\n']

theorem tableText_eq (name : String) (t : Table) : tableText name t =
    createText ++ (quoted name ++ ([' ', '('] ++ (bodyText (bodyLines t) ++ ')' :: engineText))) := by
  have hwords : tableText name t = createText ++ quoted name ++ [' ', '(', '\n'] ++
      [',', '\n'].intercalate (bodyLines t) ++ '\n' :: ')' :: engineText := rfl
  rw [hwords, bodyText]
  simp only [List.append_assoc, List.cons_append, List.nil_append]

theorem header?_quoted {name : String} (h : IsName isTableChar name) (rest : List Char) :
    header? (createText ++ (quoted name ++ ([' ', '('] ++ rest))) = some (name.toList, rest) := by
  -- The words are read, and the backtick is no start of `IF NOT EXISTS`.
  have hwords : header? (createText ++ (quoted name ++ ([' ', '('] ++ rest))) =
      (eatRun isNameChar (dropTick (quoted name ++ ([' ', '('] ++ rest)))).bind fun r =>
        (eat '(' ((dropTick r.2).dropWhile isBlank)).bind fun cs => some (r.1, cs) := rfl
  rw [hwords, eatRun_quoted h (fun c => isNameChar_of_isTableChar) rfl]
  rfl

theorem firstHeader?_of_header? {c : Char} {cs : List Char} {r : List Char × List Char}
    (h : header? (c :: cs) = some r) : firstHeader? (c :: cs) = some r := by
  rw [firstHeader?, h]

/-- The statement that a printed table is read as. -/
def printed (name : String) (t : Table) : Statement := ⟨name, printedClauses t⟩

/-- A printed table is read as its statement, whatever follows. -/
theorem firstStatement?_tableText {name : String} {t : Table} (hn : IsName isTableChar name) (ht : Printable t)
    (rest : List Char) :
    firstStatement? (tableText name t ++ rest) = some (printed name t, engineText ++ rest) := by
  have hlines := declares_bodyLines ht
  have hheader : firstHeader? (tableText name t ++ rest) =
      some (name.toList, bodyText (bodyLines t) ++ ')' :: (engineText ++ rest)) := by
    have htext : tableText name t ++ rest = createText ++
        (quoted name ++ ([' ', '('] ++ (bodyText (bodyLines t) ++ ')' :: (engineText ++ rest)))) := by
      rw [tableText_eq]
      simp only [List.append_assoc, List.cons_append]
    rw [htext]
    exact firstHeader?_of_header? (header?_quoted hn _)
  rw [firstStatement?, hheader]
  simp only [Option.bind_eq_bind, Option.bind_some, closingParen_bodyText (solid_of_declares hlines),
    clauses_bodyText hlines, Option.pure_def, String.ofList_toList, printed]

/-! ## All statements -/

theorem header?_cons {c : Char} {cs : List Char} (h : foldCase c ≠ 'c') : header? (c :: cs) = none := by
  have hword : eatWordBlanks ['c', 'r', 'e', 'a', 't', 'e'] (c :: cs) = none := by
    simp [eatWordBlanks, eatWord, h]
  rw [header?, hword]
  rfl

theorem firstHeader?_append {a : List Char} (h : a.all (foldCase · != 'c') = true) (rest : List Char) :
    firstHeader? (a ++ rest) = firstHeader? rest := by
  induction a with
  | nil => rfl
  | cons c a ih =>
    rw [List.all_cons, Bool.and_eq_true, bne_iff_ne] at h
    rw [List.cons_append, firstHeader?, header?_cons h.1]
    exact ih h.2

theorem statements_of_some {cs rest : List Char} {s : Statement} (h : firstStatement? cs = some (s, rest)) :
    statements cs = s :: statements rest := by
  rw [statements]
  split
  · next hn => rw [h] at hn; cases hn
  · next hs => rw [h] at hs; cases hs; rfl

theorem statements_of_none {cs : List Char} (h : firstStatement? cs = none) : statements cs = [] := by
  rw [statements]
  split
  · rfl
  · next hs => rw [h] at hs; cases hs

/-- A text without a C holds no header and is passed over. -/
theorem statements_append {a : List Char} (h : a.all (foldCase · != 'c') = true) (rest : List Char) :
    statements (a ++ rest) = statements rest := by
  have hfirst : firstStatement? (a ++ rest) = firstStatement? rest := by
    rw [firstStatement?, firstHeader?_append h]
    rfl
  cases hr : firstStatement? rest with
  | none => rw [statements_of_none hr, statements_of_none (hfirst.trans hr)]
  | some r => rw [statements_of_some hr, statements_of_some (hfirst.trans hr)]

theorem statements_print {tables : List (String × Table)}
    (h : ∀ e ∈ tables, IsName isTableChar e.1 ∧ Printable e.2) :
    statements (print tables).toList = tables.map fun e => printed e.1 e.2 := by
  rw [print, String.toList_ofList]
  induction tables with
  | nil => exact statements_of_none rfl
  | cons e tables ih =>
    obtain ⟨hn, ht⟩ := h e (List.mem_cons_self ..)
    rw [List.flatMap_cons, statements_of_some (firstStatement?_tableText hn ht _),
      statements_append rfl, ih fun x hx => h x (List.mem_cons_of_mem _ hx)]
    rfl

/-! ## The document -/

theorem columns_printed (name : String) (t : Table) :
    (printed name t).columns = t.fields.map fun f => { f with isPrimary := false } := by
  cases hk : primaryNames t.fields with
  | nil => simp [Statement.columns, printed, printedClauses, hk, keyClause?, List.filterMap_map]
  | cons => simp [Statement.columns, printed, printedClauses, hk, keyClause?, List.filterMap_map]

theorem foreignKeys_printed (name : String) (t : Table) : (printed name t).foreignKeys = t.foreignKeys := by
  cases hk : primaryNames t.fields with
  | nil => simp [Statement.foreignKeys, printed, printedClauses, hk, keyClause?, List.filterMap_map]
  | cons => simp [Statement.foreignKeys, printed, printedClauses, hk, keyClause?, List.filterMap_map]

theorem primaryColumns_printed (name : String) (t : Table) :
    (printed name t).primaryColumns = primaryNames t.fields := by
  have hcolumns : t.fields.flatMap (fun _ => ([] : List String)) = [] :=
    List.flatMap_eq_nil_iff.2 fun _ _ => rfl
  have hkeys : t.foreignKeys.flatMap (fun _ => ([] : List String)) = [] :=
    List.flatMap_eq_nil_iff.2 fun _ _ => rfl
  cases hk : primaryNames t.fields with
  | nil => simp [Statement.primaryColumns, printed, printedClauses, hk, keyClause?, List.flatMap_map]
  | cons =>
    simp [Statement.primaryColumns, printed, printedClauses, hk, keyClause?, List.flatMap_map, hcolumns, hkeys]

/-- A column is primary when its name is among the primary ones, since no other column has it. -/
theorem contains_primaryNames {t : Table} (h : (t.fields.map Field.name).Nodup) {f : Field} (hf : f ∈ t.fields) :
    (primaryNames t.fields).contains f.name = f.isPrimary := by
  rw [Bool.eq_iff_iff, List.contains_iff_mem, primaryNames, List.mem_map]
  constructor
  · rintro ⟨g, hg, hname⟩
    obtain ⟨hg, hp⟩ := List.mem_filter.1 hg
    rwa [← List.inj_on_of_nodup_map h hg hf hname]
  · exact fun hp => ⟨f, List.mem_filter.2 ⟨hf, hp⟩, rfl⟩

/-- The flags of the columns come back from the list of the primary key. -/
theorem table_printed (name : String) {t : Table} (h : (t.fields.map Field.name).Nodup) :
    (printed name t).table = t := by
  have hfields : (printed name t).columns.map (fun f =>
      { f with isPrimary := f.isPrimary || (printed name t).primaryColumns.contains f.name }) = t.fields := by
    rw [columns_printed, primaryColumns_printed, List.map_map]
    refine (List.map_congr_left fun f hf => ?_).trans (List.map_id _)
    rw [Function.comp_apply, contains_primaryNames h hf, Bool.false_or]
    rfl
  rw [Statement.table, hfields, foreignKeys_printed]

/-- Printing the tables of a document and reading the dump gives the tables again, names, types,
flags and keys, in the same order. Each foreign key is a relationship, and the revision is 0. -/
theorem document_print (d : Document) (h : ∀ e ∈ d.tables.entries, IsName isTableChar e.1 ∧ Printable e.2) :
    document (print d.tables.entries) = ⟨d.tables, d.foreignRelationships, 0⟩ := by
  have htables : (d.tables.entries.map fun e => printed e.1 e.2).map (fun s => (s.name, s.table)) =
      d.tables.entries := by
    rw [List.map_map]
    refine (List.map_congr_left fun e he => ?_).trans (List.map_id _)
    rw [Function.comp_apply, table_printed _ (h e he).2.distinct]
    rfl
  have hrelationships : (d.tables.entries.map fun e => printed e.1 e.2).flatMap (·.relationships) =
      d.foreignRelationships := by
    simp only [List.flatMap_map, Statement.relationships, foreignKeys_printed]
    rfl
  rw [document, statements_print h, ofStatements, htables, hrelationships, Catalog.ofList_entries]

/-- Two tables that refer to each other and to themselves. Their types hold commas, parentheses,
quotations and the start of a statement, and one of them has no primary key. -/
def market : Document where
  tables := .ofList
    [ ("item$1", ⟨[⟨"shop", "INT NOT NULL", true⟩, ⟨"no(", "BIGINT(20) UNSIGNED", true⟩,
          ⟨"price", "DECIMAL(10,2) DEFAULT '0,0)'", false⟩, ⟨"parent", "INT", false⟩],
        [⟨"shop", "SHOP_2", "id"⟩, ⟨"parent", "item$1", "no("⟩]⟩),
      ("SHOP_2", ⟨[⟨"id", "INT", false⟩, ⟨"kind", "ENUM('a,(b','CREATE TABLE x (') COMMENT \"`\"", false⟩,
          ⟨"PRIMARY", "TEXT", false⟩], [⟨"id", "item$1", "shop"⟩]⟩) ]
  relationships := []
  revision := 7

theorem document_print_market :
    (∀ e ∈ market.tables.entries, IsName isTableChar e.1 ∧ Printable e.2) ∧
      document (print market.tables.entries) = ⟨market.tables, market.foreignRelationships, 0⟩ :=
  ⟨by decide +kernel, document_print market (by decide +kernel)⟩

end SchemaAtlas.Dump
