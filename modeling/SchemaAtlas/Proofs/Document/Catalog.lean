import Mathlib.Data.List.Forall2
import Mathlib.Data.List.Induction
import SchemaAtlas.Document.Basic
/-!
# Lookups in catalogs

The names of a catalog are distinct, so looking up a name finds the one entry that has
it (`get?_eq_some_iff`), and putting the entries of a catalog one after the other gives
the catalog again (`ofList_entries`). What is put under a name replaces what stood there
(`get?_put`, `flatMap_put_perm`), so of two lists that are put after each other the second
one decides the values and the first one the places (`get?_ofList_append`,
`names_ofList_append`).
-/

namespace SchemaAtlas.Catalog

variable {α β : Type}

/-! ## Looking up -/

theorem lookup_eq_some_iff {es : List (String × α)} (h : (es.map Prod.fst).Nodup) {n : String} {a : α} :
    es.lookup n = some a ↔ (n, a) ∈ es := by
  induction es with
  | nil => simp
  | cons e es ih =>
    obtain ⟨m, b⟩ := e
    simp only [List.map_cons, List.nodup_cons] at h
    rw [List.lookup_cons, List.mem_cons]
    by_cases hn : n = m
    · subst hn
      have hout : (n, a) ∉ es := fun hc => h.1 (List.mem_map_of_mem (f := Prod.fst) hc)
      simp [hout, eq_comm]
    · have hm : (n == m) = false := by simpa using hn
      simp [hm, ih h.2, hn]

/-- The value under a name is that of the entry with the name. -/
theorem get?_eq_some_iff {c : Catalog α} {n : String} {a : α} : c.get? n = some a ↔ (n, a) ∈ c.entries :=
  lookup_eq_some_iff c.distinct

theorem mem_names_of_mem {c : Catalog α} {e : String × α} (h : e ∈ c.entries) : e.1 ∈ c.names :=
  List.mem_map_of_mem h

/-- The two places of a name are the same place. -/
theorem index_unique {c : Catalog α} {i j : Nat} {n : String} {a b : α}
    (hi : c.entries[i]? = some (n, a)) (hj : c.entries[j]? = some (n, b)) : i = j := by
  obtain ⟨hi', -⟩ := List.getElem?_eq_some_iff.1 hi
  have hn : (c.entries.map Prod.fst)[i]? = (c.entries.map Prod.fst)[j]? := by simp [hi, hj]
  exact (List.getElem?_inj (by simpa using hi') c.distinct).1 hn

/-- A name has one value. -/
theorem value_unique {c : Catalog α} {n : String} {a b : α} (ha : (n, a) ∈ c.entries) (hb : c.get? n = some b) : a = b := by
  rw [get?_eq_some_iff.2 ha] at hb
  exact Option.some.inj hb

/-! ## Putting entries -/

theorem putEntries_of_not_mem {n : String} {a : α} {es : List (String × α)} (h : n ∉ es.map Prod.fst) :
    putEntries n a es = es ++ [(n, a)] := by
  induction es with
  | nil => rfl
  | cons e es ih =>
    simp only [List.map_cons, List.mem_cons, not_or] at h
    rw [putEntries, if_neg (Ne.symm h.1), ih h.2]
    rfl

theorem entries_foldl_put (c : Catalog α) (es : List (String × α))
    (h : ((c.entries ++ es).map Prod.fst).Nodup) :
    (es.foldl (fun c e => c.put e.1 e.2) c).entries = c.entries ++ es := by
  induction es generalizing c with
  | nil => simp
  | cons e es ih =>
    have hput : (c.put e.1 e.2).entries = c.entries ++ [e] := by
      refine putEntries_of_not_mem fun hm => ?_
      simp only [List.map_append, List.map_cons] at h
      exact (List.nodup_append.1 h).2.2 _ hm _ (List.mem_cons_self ..) rfl
    rw [List.foldl_cons, ih, hput, List.append_assoc]
    · rfl
    · rw [hput]; simpa using h

/-- Entries with distinct names become the entries of a catalog, in the same order. -/
theorem entries_ofList {es : List (String × α)} (h : (es.map Prod.fst).Nodup) : (ofList es).entries = es :=
  entries_foldl_put empty es (by simpa [empty] using h)

theorem ofList_entries (c : Catalog α) : ofList c.entries = c :=
  ext_entries (entries_ofList c.distinct)

theorem ofList_concat (es : List (String × α)) (e : String × α) :
    ofList (es ++ [e]) = (ofList es).put e.1 e.2 :=
  List.foldl_append

theorem lookup_cons_eq (e : String × α) (es : List (String × α)) (n : String) :
    (e :: es).lookup n = if e.1 = n then some e.2 else es.lookup n := by
  rw [List.lookup_cons]
  by_cases h : e.1 = n
  · simp [h]
  · have hn : (n == e.1) = false := by simpa using Ne.symm h
    simp [h, hn]

theorem lookup_putEntries (n m : String) (a : α) (es : List (String × α)) :
    (putEntries n a es).lookup m = if n = m then some a else es.lookup m := by
  induction es with
  | nil => simp [putEntries, lookup_cons_eq]
  | cons e es ih =>
    rw [putEntries]
    split
    · next h => simp only [lookup_cons_eq]; grind
    · next h => simp only [lookup_cons_eq, ih]; grind

theorem get?_put (c : Catalog α) (n m : String) (a : α) :
    (c.put n a).get? m = if n = m then some a else c.get? m :=
  lookup_putEntries n m a c.entries

theorem flatMap_putEntries_perm (g : String × α → List β) (n : String) (a : α) (es : List (String × α)) :
    ((putEntries n a es).flatMap g ++ (es.lookup n).toList.flatMap fun b => g (n, b)).Perm
      (es.flatMap g ++ g (n, a)) := by
  induction es with
  | nil => simp [putEntries]
  | cons e es ih =>
    rw [putEntries, lookup_cons_eq]
    split
    · next h =>
      -- The new value and the old one change sides.
      subst h
      simp only [List.flatMap_cons, Option.toList_some, List.flatMap_nil, List.append_nil, List.append_assoc]
      exact ((List.perm_append_comm.append_left _).trans (List.perm_append_comm_assoc _ _ _)).trans
        (List.perm_append_comm.append_left _)
    · simp only [List.flatMap_cons, List.append_assoc]
      exact ih.append_left _

/-- What is put under a name replaces what stood there. -/
theorem flatMap_put_perm (g : String × α → List β) (c : Catalog α) (n : String) (a : α) :
    ((c.put n a).entries.flatMap g ++ (c.get? n).toList.flatMap fun b => g (n, b)).Perm
      (c.entries.flatMap g ++ g (n, a)) :=
  flatMap_putEntries_perm g n a c.entries

/-! ## Catalogs of lists -/

theorem names_putEntries (n : String) (a : α) (es : List (String × α)) :
    (putEntries n a es).map Prod.fst =
      if n ∈ es.map Prod.fst then es.map Prod.fst else es.map Prod.fst ++ [n] := by
  induction es with
  | nil => rfl
  | cons e es ih =>
    rw [putEntries, List.map_cons]
    by_cases h : e.1 = n
    · rw [if_pos h, if_pos (by rw [h]; exact List.mem_cons_self), List.map_cons, h]
    · rw [if_neg h, List.map_cons, ih]
      simp only [List.mem_cons, Ne.symm h, false_or]
      split <;> rfl

theorem names_put (c : Catalog α) (n : String) (a : α) :
    (c.put n a).names = if n ∈ c.names then c.names else c.names ++ [n] :=
  names_putEntries n a c.entries

/-- Names that are given again keep their places, new ones follow in their order. -/
theorem names_ofList_append (es es' : List (String × α)) :
    (ofList (es ++ es')).names =
      (ofList es).names ++ (ofList es').names.filter (· ∉ (ofList es).names) := by
  induction es' using List.reverseRecOn with
  | nil => simp [ofList, empty, names]
  | append_singleton es' e ih =>
    rw [← List.append_assoc, ofList_concat, ofList_concat, names_put, names_put, ih]
    by_cases hold : e.1 ∈ (ofList es).names
    · by_cases hnew : e.1 ∈ (ofList es').names
      · simp [hold, hnew]
      · simp [hold, hnew, List.filter_append]
    · by_cases hnew : e.1 ∈ (ofList es').names
      · simp [hold, hnew, List.mem_filter]
      · simp [hold, hnew, List.filter_append, List.mem_filter]

/-- The value that was given last counts. -/
theorem get?_ofList_append (es es' : List (String × α)) (n : String) :
    (ofList (es ++ es')).get? n = ((ofList es').get? n).or ((ofList es).get? n) := by
  induction es' using List.reverseRecOn with
  | nil => simp [ofList, empty, get?]
  | append_singleton es' e ih =>
    rw [← List.append_assoc, ofList_concat, ofList_concat, get?_put, get?_put, ih]
    split <;> rfl

theorem get?_ofList_eq_none {es : List (String × α)} {n : String} (h : n ∉ es.map Prod.fst) :
    (ofList es).get? n = none := by
  induction es using List.reverseRecOn with
  | nil => rfl
  | append_singleton es e ih =>
    simp only [List.map_append, List.map_singleton, List.mem_append, List.mem_singleton, not_or] at h
    rw [ofList_concat, get?_put, if_neg (Ne.symm h.2), ih h.1]

/-- A value counts if none is given for its name later on. -/
theorem get?_ofList_last (es : List (String × α)) {es' : List (String × α)} {e : String × α} (h : e.1 ∉ es'.map Prod.fst) :
    (ofList (es ++ e :: es')).get? e.1 = some e.2 := by
  rw [← List.singleton_append, ← List.append_assoc, get?_ofList_append, get?_ofList_eq_none h, ofList_concat, get?_put,
    if_pos rfl]
  rfl

/-- Entries with the same name and related values. -/
def Related (S : α → β → Prop) (e : String × α) (e' : String × β) : Prop := e.1 = e'.1 ∧ S e.2 e'.2

theorem related_putEntries {S : α → β → Prop} {es : List (String × α)} {es' : List (String × β)} {a : α} {b : β}
    (n : String) (hab : S a b) (h : List.Forall₂ (Related S) es es') :
    List.Forall₂ (Related S) (putEntries n a es) (putEntries n b es') := by
  induction h with
  | nil => exact .cons ⟨rfl, hab⟩ .nil
  | @cons e e' es es' he hrest ih =>
    rw [putEntries, putEntries, ← he.1]
    split
    · exact .cons ⟨rfl, hab⟩ hrest
    · exact .cons he ih

/-- Lists of related entries become catalogs of related entries. -/
theorem related_ofList {S : α → β → Prop} {es : List (String × α)} {es' : List (String × β)}
    (h : List.Forall₂ (Related S) es es') :
    List.Forall₂ (Related S) (ofList es).entries (ofList es').entries := by
  have hfold : ∀ (c : Catalog α) (c' : Catalog β), List.Forall₂ (Related S) c.entries c'.entries →
      List.Forall₂ (Related S) (es.foldl (fun c e => c.put e.1 e.2) c).entries
        (es'.foldl (fun c e => c.put e.1 e.2) c').entries := by
    induction h with
    | nil => exact fun _ _ hc => hc
    | @cons e e' es es' he _ ih =>
      obtain ⟨n, a⟩ := e
      obtain ⟨m, b⟩ := e'
      obtain ⟨rfl, hab⟩ : n = m ∧ S a b := he
      exact fun c c' hc => ih _ _ (related_putEntries n hab hc)
  exact hfold empty empty .nil

end SchemaAtlas.Catalog
