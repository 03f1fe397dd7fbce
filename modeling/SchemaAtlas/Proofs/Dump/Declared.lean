import Mathlib.Data.List.Flatten
import Mathlib.Data.List.Induction
import Mathlib.Data.List.Perm.Subperm
import SchemaAtlas.Proofs.Dump.RoundTrip
/-!
# The foreign keys that a dump declares

Every foreign key that a dump declares becomes a relationship, but only the last declaration of
a table stays, at the place of the first. So a foreign key never lacks its relationship
(`keysOf_ofList_subperm`), while a relationship may be left of a declaration that was replaced
(`declared_again_out_of_step`). The document is in step exactly if the declarations with foreign
keys are all in force, in the order of the dump (`document_inStep_iff`).
-/

namespace SchemaAtlas

/-! ## Foreign keys of entries -/

/-- The foreign keys of an entry, as relationships. -/
def keysOf (e : String × Table) : List Relationship := e.2.foreignKeys.map (·.relationship e.1)

/-- Whether an entry has foreign keys. -/
def hasKeys (e : String × Table) : Bool := !e.2.foreignKeys.isEmpty

theorem keysOf_eq_nil_iff {e : String × Table} : keysOf e = [] ↔ hasKeys e = false := by
  simp [keysOf, hasKeys]

theorem flatMap_keysOf_filter (es : List (String × Table)) :
    (es.filter hasKeys).flatMap keysOf = es.flatMap keysOf := by
  induction es with
  | nil => rfl
  | cons e es ih =>
    cases h : hasKeys e with
    | true => rw [List.filter_cons_of_pos h, List.flatMap_cons, List.flatMap_cons, ih]
    | false =>
      rw [List.filter_cons_of_neg (by simp [h]), List.flatMap_cons, keysOf_eq_nil_iff.2 h, List.nil_append, ih]

/-- The first foreign key tells whose it is. -/
theorem owner_keysOf {e : String × Table} (h : hasKeys e = true) (rest : List Relationship) :
    ((keysOf e ++ rest).map Relationship.fromTable).head? = some e.1 := by
  cases hk : e.2.foreignKeys with
  | nil => simp [hasKeys, hk] at h
  | cons k ks => simp [keysOf, hk, ForeignKey.relationship]

/-- Entries of a catalog that have foreign keys are known by them. -/
theorem eq_of_flatMap_keysOf {c : Catalog Table} {es es' : List (String × Table)}
    (h : ∀ e ∈ es, e ∈ c.entries ∧ hasKeys e = true) (h' : ∀ e ∈ es', e ∈ c.entries ∧ hasKeys e = true)
    (heq : es.flatMap keysOf = es'.flatMap keysOf) : es = es' := by
  induction es generalizing es' with
  | nil =>
    cases es' with
    | nil => rfl
    | cons e' es' =>
      have hhead := owner_keysOf (h' e' List.mem_cons_self).2 (es'.flatMap keysOf)
      rw [← List.flatMap_cons, ← heq] at hhead
      cases hhead
  | cons e es ih =>
    have hhead := owner_keysOf (h e List.mem_cons_self).2 (es.flatMap keysOf)
    rw [← List.flatMap_cons, heq] at hhead
    cases es' with
    | nil => cases hhead
    | cons e' es' =>
      have hhead' := owner_keysOf (h' e' List.mem_cons_self).2 (es'.flatMap keysOf)
      rw [List.flatMap_cons, hhead'] at hhead
      -- The two entries have the same name, so they are the same entry.
      obtain rfl : e' = e := List.inj_on_of_nodup_map c.distinct (h' e' List.mem_cons_self).1
        (h e List.mem_cons_self).1 (Option.some.inj hhead)
      rw [List.flatMap_cons, List.flatMap_cons] at heq
      rw [ih (fun x hx => h x (List.mem_cons_of_mem _ hx)) (fun x hx => h' x (List.mem_cons_of_mem _ hx))
        (List.append_cancel_left heq)]

/-! ## Declarations that are replaced -/

theorem keysOf_put_perm (c : Catalog Table) (e : String × Table) :
    ((c.put e.1 e.2).entries.flatMap keysOf ++ (c.get? e.1).toList.flatMap fun t => keysOf (e.1, t)).Perm
      (c.entries.flatMap keysOf ++ keysOf e) :=
  c.flatMap_put_perm keysOf e.1 e.2

/-- Every foreign key in force was declared, as often as it is in force. -/
theorem keysOf_ofList_subperm (es : List (String × Table)) :
    ((Catalog.ofList es).entries.flatMap keysOf).Subperm (es.flatMap keysOf) := by
  induction es using List.reverseRecOn with
  | nil => exact List.Subperm.refl _
  | append_singleton es e ih =>
    rw [Catalog.ofList_concat, List.flatMap_append, List.flatMap_singleton]
    have hput := keysOf_put_perm (Catalog.ofList es) e
    exact ((List.sublist_append_left _ _).subperm.trans hput.subperm).trans ((List.subperm_append_right _).2 ih)

/-- Where as many foreign keys are in force as were declared, no declaration with foreign keys
was replaced. -/
theorem get?_ofList_of_length {es : List (String × Table)}
    (h : ((Catalog.ofList es).entries.flatMap keysOf).length = (es.flatMap keysOf).length) :
    ∀ e ∈ es, hasKeys e = true → (Catalog.ofList es).get? e.1 = some e.2 := by
  induction es using List.reverseRecOn with
  | nil => simp
  | append_singleton es e ih =>
    rw [Catalog.ofList_concat] at h ⊢
    have hput := (keysOf_put_perm (Catalog.ofList es) e).length_eq
    have hle := (keysOf_ofList_subperm es).length_le
    simp only [List.flatMap_append, List.flatMap_singleton, List.length_append] at h hput
    -- The last declaration replaces none with foreign keys, or there would be fewer in force.
    have hold : (((Catalog.ofList es).get? e.1).toList.flatMap fun t => keysOf (e.1, t)) = [] :=
      List.eq_nil_of_length_eq_zero (by omega)
    intro e' he' hkeys
    rw [Catalog.get?_put]
    rcases List.mem_append.1 he' with he' | he'
    · have hget := ih (by omega) e' he' hkeys
      split
      · next hname =>
        rw [hname, hget] at hold
        simp only [Option.toList_some, List.flatMap_singleton, keysOf_eq_nil_iff] at hold
        rw [hold] at hkeys
        cases hkeys
      · exact hget
    · rw [List.mem_singleton.1 he', if_pos rfl]

/-- All declared foreign keys are in force, in their order, exactly if the declarations that have
some are. -/
theorem flatMap_keysOf_ofList_iff (es : List (String × Table)) :
    es.flatMap keysOf = (Catalog.ofList es).entries.flatMap keysOf ↔
      (es.filter hasKeys).Sublist (Catalog.ofList es).entries := by
  constructor
  · intro h
    have hforce := get?_ofList_of_length (congrArg List.length h.symm)
    have hentries : es.filter hasKeys = (Catalog.ofList es).entries.filter hasKeys := by
      refine eq_of_flatMap_keysOf (c := Catalog.ofList es) ?_ ?_ ?_
      · intro e he
        obtain ⟨he, hkeys⟩ := List.mem_filter.1 he
        exact ⟨Catalog.get?_eq_some_iff.1 (hforce e he hkeys), hkeys⟩
      · intro e he
        exact List.mem_filter.1 he
      · rw [flatMap_keysOf_filter, flatMap_keysOf_filter, h]
    rw [hentries]
    exact List.filter_sublist
  · intro h
    have hsub := h.flatMap keysOf
    rw [flatMap_keysOf_filter] at hsub
    exact hsub.eq_of_length_le (keysOf_ofList_subperm es).length_le

/-! ## The document of a dump -/

namespace Dump

/-- The tables that the statements of a dump declare, in order. -/
def declared (sql : String) : List (String × Table) :=
  (statements sql.toList).map fun s => (s.name, s.table)

theorem relationships_document (sql : String) : (document sql).relationships = (declared sql).flatMap keysOf := by
  rw [declared, List.flatMap_map]
  rfl

theorem tables_document (sql : String) : (document sql).tables = .ofList (declared sql) := rfl

theorem foreignRelationships_document (sql : String) :
    (document sql).foreignRelationships = (Catalog.ofList (declared sql)).entries.flatMap keysOf := rfl

/-- The relationships of a document that is read from a dump are its foreign keys, in order,
exactly if the declarations with foreign keys stand in the document as they do in the dump: no
later declaration of the table replaces one of them, and none belongs to a table whose place,
that of its first declaration, is before that of an earlier one. So it is where no table is
declared twice. A foreign key has its relationship in any case. -/
theorem document_inStep_iff (sql : String) :
    ((document sql).InStep ↔ ((declared sql).filter hasKeys).Sublist (document sql).tables.entries) ∧
    (((declared sql).map Prod.fst).Nodup → (document sql).InStep) ∧
    (document sql).foreignRelationships.Subperm (document sql).relationships := by
  have hiff := flatMap_keysOf_ofList_iff (declared sql)
  rw [Document.InStep, relationships_document, foreignRelationships_document, tables_document]
  refine ⟨hiff, fun hnodup => hiff.2 ?_, keysOf_ofList_subperm _⟩
  rw [Catalog.entries_ofList hnodup]
  exact List.filter_sublist

/-- A table is declared again, and only the later declaration has a foreign key. -/
theorem document_inStep_iff_again :
    let sql := "CREATE TABLE a (); CREATE TABLE b (y INT); CREATE TABLE a (FOREIGN KEY (x) REFERENCES b (y));"
    ((declared sql).filter hasKeys).Sublist (document sql).tables.entries ∧ (document sql).InStep := by
  intro sql
  have hdeclared : declared sql =
      [("a", ⟨[], []⟩), ("b", ⟨[⟨"y", "INT", false⟩], []⟩), ("a", ⟨[], [⟨"x", "b", "y"⟩]⟩)] := by
    decide +kernel
  have h : ((declared sql).filter hasKeys).Sublist (document sql).tables.entries := by
    rw [tables_document, hdeclared]
    decide +kernel
  exact ⟨h, (document_inStep_iff sql).1.2 h⟩

/-- Tables that are declared twice. In the first dump the later declaration drops the foreign key
of the earlier one, whose relationship stays. In the second dump the later declaration brings a
foreign key, whose relationship comes last, while the table is the first. -/
theorem declared_again_out_of_step :
    let dropped := "CREATE TABLE a (x INT, FOREIGN KEY (x) REFERENCES b (y)); CREATE TABLE a (x INT);"
    let late :=
      "CREATE TABLE a (); CREATE TABLE b (FOREIGN KEY (y) REFERENCES a (x)); CREATE TABLE a (FOREIGN KEY (x) REFERENCES b (y));"
    (¬ (document dropped).InStep ∧ (document dropped).relationships = [⟨"a", "x", "b", "y"⟩] ∧
        (document dropped).foreignRelationships = []) ∧
      ¬ (document late).InStep ∧ (document late).relationships = [⟨"b", "y", "a", "x"⟩, ⟨"a", "x", "b", "y"⟩] ∧
        (document late).foreignRelationships = [⟨"a", "x", "b", "y"⟩, ⟨"b", "y", "a", "x"⟩] := by
  intro dropped late
  have hdropped : declared dropped =
      [("a", ⟨[⟨"x", "INT", false⟩], [⟨"x", "b", "y"⟩]⟩), ("a", ⟨[⟨"x", "INT", false⟩], []⟩)] := by
    decide +kernel
  have hlate : declared late =
      [("a", ⟨[], []⟩), ("b", ⟨[], [⟨"y", "a", "x"⟩]⟩), ("a", ⟨[], [⟨"x", "b", "y"⟩]⟩)] := by
    decide +kernel
  simp only [Document.InStep, relationships_document, foreignRelationships_document, hdropped, hlate]
  decide +kernel

end Dump
end SchemaAtlas
