import Mathlib.Data.List.Induction
import SchemaAtlas.Proofs.Document.Update
import SchemaAtlas.Proofs.Text.Trim
/-!
# Why an update is refused

`Refuses` says for which reason an update is refused, the first of four in a fixed order, and
`Accepts` when it takes effect; an update does one or the other (`edited_error_iff`,
`edited_ok_iff`). A definition that is not acceptable is refused for its first fault:
`Flawed` names the first field that has no name, or that has the name of an earlier one
(`tableFlaw?_eq_some_iff`).
-/

namespace SchemaAtlas

open Text (trim trim_trim)

/-! ## Acceptable definitions -/

/-- The names of fields as they are stored. -/
def storedNames (fields : List Field) : List String := fields.map fun f => trim f.name

/-- Each field has a name, and no two have the same. -/
structure Named (fields : List Field) : Prop where
  nonempty : ∀ n ∈ storedNames fields, n ≠ ""
  distinct : (storedNames fields).Nodup

/-- A definition that an update may bring. -/
structure Acceptable (name : String) (fields : List Field) : Prop where
  name : trim name ≠ ""
  fields : Named fields

/-- The first fault of a definition, and how it is reported. -/
inductive Flawed (name : String) (fields : List Field) : Flaw → String → Prop
  | noName : trim name = "" → Flawed name fields .noTableName "table name is empty"
  /-- Up to here all fields are as they should be, and this one has no name. -/
  | unnamed {before after : List Field} {f : Field} : trim name ≠ "" → fields = before ++ f :: after →
      Named before → trim f.name = "" →
      Flawed name fields (.unnamedField (before.length + 1))
        ("field #" ++ toString (before.length + 1) ++ " has no name")
  /-- Up to here all fields are as they should be, and this one has the name of one of them. -/
  | duplicate {before after : List Field} {f : Field} : trim name ≠ "" → fields = before ++ f :: after →
      Named before → trim f.name ≠ "" → trim f.name ∈ storedNames before →
      Flawed name fields (.duplicateField (trim f.name)) ("duplicate field name " ++ trim f.name)

theorem storedNames_append (fields fields' : List Field) :
    storedNames (fields ++ fields') = storedNames fields ++ storedNames fields' := List.map_append

/-- Fields are as they should be, or there is a first one that is not. -/
theorem named_or_first (fields : List Field) :
    Named fields ∨ ∃ before f after, fields = before ++ f :: after ∧ Named before ∧
      (trim f.name = "" ∨ trim f.name ∈ storedNames before) := by
  induction fields using List.reverseRecOn with
  | nil => exact .inl ⟨by simp [storedNames], by simp [storedNames]⟩
  | append_singleton fields f ih =>
    rcases ih with h | ⟨before, f', after, rfl, h⟩
    · by_cases hf : trim f.name = "" ∨ trim f.name ∈ storedNames fields
      · exact .inr ⟨fields, f, [], rfl, h, hf⟩
      · rw [not_or] at hf
        refine .inl ⟨?_, ?_⟩
        · intro n hn
          rw [storedNames_append, List.mem_append] at hn
          rcases hn with hn | hn
          · exact h.nonempty n hn
          · rw [List.mem_singleton.1 hn]; exact hf.1
        · rw [storedNames_append]
          refine List.nodup_append.2 ⟨h.distinct, by simp [storedNames], ?_⟩
          rintro n hn m hm rfl
          rw [List.mem_singleton.1 hm] at hn
          exact hf.2 hn
    · exact .inr ⟨before, f', after ++ [f], by simp, h⟩

/-- The check passes over fields that are as they should be. -/
theorem fieldFlaw?_append {before : List Field} {n : Nat} {seen : List String} (h : Named before)
    (hseen : ∀ m ∈ storedNames before, m ∉ seen) (rest : List Field) :
    fieldFlaw? n seen (before ++ rest) =
      fieldFlaw? (n + before.length) ((storedNames before).reverse ++ seen) rest := by
  induction before generalizing n seen with
  | nil => rfl
  | cons f before ih =>
    have hne : trim f.name ≠ "" := h.nonempty _ List.mem_cons_self
    have hnew : trim f.name ∉ seen := hseen _ List.mem_cons_self
    have hdistinct := h.distinct
    simp only [storedNames, List.map_cons, List.nodup_cons] at hdistinct
    have hbefore : Named before := ⟨fun m hm => h.nonempty m (List.mem_cons_of_mem _ hm), hdistinct.2⟩
    have hrest : ∀ m ∈ storedNames before, m ∉ trim f.name :: seen := by
      intro m hm hc
      rcases List.mem_cons.1 hc with rfl | hc
      · exact hdistinct.1 hm
      · exact hseen m (List.mem_cons_of_mem _ hm) hc
    rw [List.cons_append, fieldFlaw?]
    simp only [if_neg hne, if_neg hnew]
    rw [ih hbefore hrest]
    simp only [storedNames, List.map_cons, List.reverse_cons, List.append_assoc, List.singleton_append,
      List.length_cons]
    congr 1
    omega

theorem fieldFlaw?_of_named {fields : List Field} (h : Named fields) : fieldFlaw? 1 [] fields = none := by
  rw [← List.append_nil fields, fieldFlaw?_append h (by simp)]
  rfl

/-- The check stops at the first field that is not as it should be. -/
theorem fieldFlaw?_of_first {before after : List Field} {f : Field} (h : Named before) :
    fieldFlaw? 1 [] (before ++ f :: after) =
      if trim f.name = "" then some (.unnamedField (before.length + 1))
      else if trim f.name ∈ storedNames before then some (.duplicateField (trim f.name))
      else fieldFlaw? (before.length + 2) (trim f.name :: (storedNames before).reverse) after := by
  rw [fieldFlaw?_append h (by simp), fieldFlaw?, Nat.add_comm 1]
  simp only [List.append_nil, List.mem_reverse]

/-- A definition is acceptable, or it has a first fault. -/
theorem acceptable_or_flawed (name : String) (fields : List Field) :
    Acceptable name fields ∨ ∃ flaw text, Flawed name fields flaw text := by
  by_cases hname : trim name = ""
  · exact .inr ⟨_, _, .noName hname⟩
  · rcases named_or_first fields with h | ⟨before, f, after, heq, hbefore, hf⟩
    · exact .inl ⟨hname, h⟩
    · by_cases hne : trim f.name = ""
      · exact .inr ⟨_, _, .unnamed hname heq hbefore hne⟩
      · exact .inr ⟨_, _, .duplicate hname heq hbefore hne (hf.resolve_left hne)⟩

theorem tableFlaw?_of_acceptable {name : String} {fields : List Field} (h : Acceptable name fields) :
    tableFlaw? name fields = none := by
  rw [tableFlaw?, if_neg h.name, fieldFlaw?_of_named h.fields]

theorem tableFlaw?_of_flawed {name text : String} {fields : List Field} {flaw : Flaw}
    (h : Flawed name fields flaw text) : tableFlaw? name fields = some flaw ∧ flaw.message = text := by
  unfold tableFlaw?
  cases h with
  | noName hname => exact ⟨if_pos hname, rfl⟩
  | unnamed hname heq hbefore hf =>
    subst heq
    rw [if_neg hname, fieldFlaw?_of_first hbefore, if_pos hf]
    exact ⟨rfl, rfl⟩
  | duplicate hname heq hbefore hne hf =>
    subst heq
    rw [if_neg hname, fieldFlaw?_of_first hbefore, if_neg hne, if_pos hf]
    exact ⟨rfl, rfl⟩

theorem tableFlaw?_eq_none_iff {name : String} {fields : List Field} :
    tableFlaw? name fields = none ↔ Acceptable name fields := by
  refine ⟨fun h => ?_, tableFlaw?_of_acceptable⟩
  rcases acceptable_or_flawed name fields with ha | ⟨flaw, text, hf⟩
  · exact ha
  · rw [(tableFlaw?_of_flawed hf).1] at h
    cases h

/-- A definition is refused for its first fault, in these words. -/
theorem tableFlaw?_eq_some_iff {name : String} {fields : List Field} {flaw : Flaw} :
    tableFlaw? name fields = some flaw ↔ Flawed name fields flaw flaw.message := by
  refine ⟨fun h => ?_, fun h => (tableFlaw?_of_flawed h).1⟩
  rcases acceptable_or_flawed name fields with ha | ⟨flaw', text, hf⟩
  · rw [tableFlaw?_of_acceptable ha] at h
    cases h
  · obtain ⟨hflaw, hmessage⟩ := tableFlaw?_of_flawed hf
    rw [hflaw] at h
    cases h
    rw [hmessage]
    exact hf

theorem tableFlaw?_trim (name : String) (fields : List Field) :
    tableFlaw? (trim name) fields = tableFlaw? name fields := by
  rw [tableFlaw?, trim_trim]
  rfl

/-! ## Refusals -/

namespace Document

/-- Why an update of a table is refused. Each reason presupposes that there is none of those
before it. -/
inductive Refuses (d : Document) (table : String) (u : TableUpdate) : UpdateError → Prop
  | conflict : u.baseRevision ≠ d.revision →
      Refuses d table u (.revisionConflict u.baseRevision d.revision)
  | unknown : u.baseRevision = d.revision → table ∉ d.tableNames → Refuses d table u (.unknownTable table)
  | invalid {flaw : Flaw} : u.baseRevision = d.revision → table ∈ d.tableNames →
      Flawed u.name u.fields flaw flaw.message → Refuses d table u (.invalid flaw)
  | taken : u.baseRevision = d.revision → table ∈ d.tableNames → Acceptable u.name u.fields →
      trim u.name ≠ table → trim u.name ∈ d.tableNames → Refuses d table u (.nameTaken (trim u.name))

/-- When an update of a table takes effect. -/
structure Accepts (d : Document) (table : String) (u : TableUpdate) : Prop where
  current : u.baseRevision = d.revision
  known : table ∈ d.tableNames
  acceptable : Acceptable u.name u.fields
  free : trim u.name = table ∨ trim u.name ∉ d.tableNames

variable {d : Document} {table : String} {u : TableUpdate} {e : UpdateError}

theorem accepts_or_refuses (d : Document) (table : String) (u : TableUpdate) :
    d.Accepts table u ∨ ∃ e, d.Refuses table u e := by
  by_cases hrev : u.baseRevision = d.revision
  · by_cases htable : table ∈ d.tableNames
    · cases h : tableFlaw? u.name u.fields with
      | none =>
        have hok := tableFlaw?_eq_none_iff.1 h
        by_cases hfree : trim u.name = table ∨ trim u.name ∉ d.tableNames
        · exact .inl ⟨hrev, htable, hok, hfree⟩
        · rw [not_or, not_not] at hfree
          exact .inr ⟨_, .taken hrev htable hok hfree.1 hfree.2⟩
      | some flaw => exact .inr ⟨_, .invalid hrev htable (tableFlaw?_eq_some_iff.1 h)⟩
    · exact .inr ⟨_, .unknown hrev htable⟩
  · exact .inr ⟨_, .conflict hrev⟩

theorem table?_eq_none {name : String} (h : name ∉ d.tableNames) : d.table? name = none := by
  cases ht : d.table? name with
  | none => rfl
  | some t => exact absurd (Catalog.mem_names_of_mem (Catalog.get?_eq_some_iff.1 ht)) h

theorem exists_table? {name : String} (h : name ∈ d.tableNames) : ∃ t, d.table? name = some t := by
  obtain ⟨e, he, rfl⟩ := List.mem_map.1 h
  exact ⟨e.2, Catalog.get?_eq_some_iff.2 he⟩

theorem mem_tableNames_of_table? {name : String} {t : Table} (h : d.table? name = some t) : name ∈ d.tableNames :=
  Catalog.mem_names_of_mem (Catalog.get?_eq_some_iff.1 h)

theorem edited_of_refuses (h : d.Refuses table u e) : d.edited table u = .error e := by
  unfold edited
  cases h with
  | conflict hrev => exact if_pos hrev
  | unknown hrev htable =>
    simp only [hrev, table?_eq_none htable, ne_eq, not_true_eq_false, if_false]
  | invalid hrev htable hflaw =>
    obtain ⟨old, hold⟩ := exists_table? htable
    simp only [hrev, hold, tableFlaw?_trim, tableFlaw?_eq_some_iff.2 hflaw, ne_eq, not_true_eq_false, if_false]
  | taken hrev htable hok hne htaken =>
    obtain ⟨old, hold⟩ := exists_table? htable
    have hfree : ¬ (trim u.name = table ∨ trim u.name ∉ d.tables.names) := fun hc =>
      hc.elim hne fun hout => hout htaken
    simp only [hrev, hold, tableFlaw?_trim, tableFlaw?_eq_none_iff.2 hok, dif_neg hfree, ne_eq,
      not_true_eq_false, if_false]

theorem edited_of_accepts (h : d.Accepts table u) :
    ∃ old, d.table? table = some old ∧ d.edited table u = .ok (d.editedTo table u old h.free) := by
  obtain ⟨old, hold⟩ := exists_table? h.known
  refine ⟨old, hold, ?_⟩
  have hfree : trim u.name = table ∨ trim u.name ∉ d.tables.names := h.free
  simp only [edited, h.current, hold, tableFlaw?_trim, tableFlaw?_eq_none_iff.2 h.acceptable, dif_pos hfree, ne_eq,
    not_true_eq_false, if_false]
  rfl

theorem edited_error_iff : d.edited table u = .error e ↔ d.Refuses table u e := by
  refine ⟨fun h => ?_, edited_of_refuses⟩
  rcases d.accepts_or_refuses table u with ha | ⟨e', hr⟩
  · obtain ⟨old, -, hok⟩ := edited_of_accepts ha
    rw [hok] at h
    cases h
  · rw [edited_of_refuses hr] at h
    cases h
    exact hr

theorem edited_ok_iff : (∃ d', d.edited table u = .ok d') ↔ d.Accepts table u := by
  constructor
  · rintro ⟨d', h⟩
    rcases d.accepts_or_refuses table u with ha | ⟨e, hr⟩
    · exact ha
    · rw [edited_of_refuses hr] at h
      cases h
  · intro h
    obtain ⟨old, -, hok⟩ := edited_of_accepts h
    exact ⟨_, hok⟩

/-! ## Outcomes -/

theorem applyUpdate_refused_iff : d.applyUpdate table u = .refused e ↔ d.Refuses table u e := by
  rw [← edited_error_iff]
  unfold applyUpdate
  cases d.edited table u with
  | error e' => simp
  | ok d' =>
    simp only [reduceCtorEq, iff_false]
    split <;> simp

theorem applyUpdate_accepted_iff (hd : d.revision ≠ lastRevision) :
    (∃ d', d.applyUpdate table u = .accepted d') ↔ d.Accepts table u := by
  rw [← edited_ok_iff]
  unfold applyUpdate
  cases d.edited table u with
  | error e => simp
  | ok d' => simp [hd]

/-- The definition is what an update is refused for exactly if nothing comes before and it is
not acceptable. -/
theorem refuses_invalid_iff : (∃ flaw, d.Refuses table u (.invalid flaw)) ↔
    u.baseRevision = d.revision ∧ table ∈ d.tableNames ∧ ¬ Acceptable u.name u.fields := by
  constructor
  · rintro ⟨flaw, h⟩
    cases h with
    | invalid hrev htable hflaw =>
      refine ⟨hrev, htable, ?_⟩
      rw [← tableFlaw?_eq_none_iff, tableFlaw?_eq_some_iff.2 hflaw]
      exact Option.some_ne_none flaw
  · rintro ⟨hrev, htable, hno⟩
    rw [← tableFlaw?_eq_none_iff] at hno
    obtain ⟨flaw, hflaw⟩ := Option.ne_none_iff_exists'.1 hno
    exact ⟨flaw, .invalid hrev htable (tableFlaw?_eq_some_iff.1 hflaw)⟩

end Document
end SchemaAtlas
