import SchemaAtlas.Proofs.Document.Substitution
/-!
# Updates of different tables commute

Two updates of different tables may rewrite the two ends of one relationship, and the second
one meets the names that the first one left. In a closed document the order does not matter
(`updates_commute_iff`): each update is a substitution, and two substitutions commute as long as
neither takes the name of the other's table (`Substituted.comm`).
-/

namespace SchemaAtlas

open Text (trim)

/-! ## Two substitutions -/

section
variable {a b nameA nameB : String} {ρ σ : String → String} (hab : a ≠ b) (hA : nameA ≠ b) (hB : nameB ≠ a)
include hab hA hB

theorem moved_comm (ref : String × String) :
    moved b nameB σ (moved a nameA ρ ref) = moved a nameA ρ (moved b nameB σ ref) := by
  unfold moved
  by_cases ha : ref.1 = a
  · simp [ha, hA, hab]
  · by_cases hb : ref.1 = b
    · simp [hb, hB, hab.symm]
    · simp [ha, hb]

theorem Relationship.moved_comm (r : Relationship) :
    (r.moved a nameA ρ).moved b nameB σ = (r.moved b nameB σ).moved a nameA ρ := by
  simp only [Relationship.moved, SchemaAtlas.moved_comm hab hA hB]

theorem ForeignKey.moved_comm (k : ForeignKey) :
    (k.moved a nameA ρ).moved b nameB σ = (k.moved b nameB σ).moved a nameA ρ := by
  simp only [ForeignKey.moved, SchemaAtlas.moved_comm hab hA hB]

theorem movedEntry_comm (fieldsA fieldsB : List Field) (e : String × Table) :
    movedEntry b nameB fieldsB σ (movedEntry a nameA fieldsA ρ e) =
      movedEntry a nameA fieldsA ρ (movedEntry b nameB fieldsB σ e) := by
  have hkey := ForeignKey.moved_comm (ρ := ρ) (σ := σ) hab hA hB
  -- A key's own field is renamed with its table, whatever becomes of the field that it refers to.
  have hown : ∀ (k : ForeignKey) (f : String),
      ({ (k.moved a nameA ρ).moved b nameB σ with field := f } : ForeignKey) =
        { (k.moved b nameB σ).moved a nameA ρ with field := f } := by
    intro k f
    rw [hkey]
  unfold movedEntry
  by_cases ha : e.1 = a
  · simp only [ha, hA, hab, if_true, if_false, List.map_map]
    congr 2
    exact List.map_congr_left fun k _ => hown k (ρ k.field)
  · by_cases hb : e.1 = b
    · simp only [hb, hB, hab.symm, if_true, if_false, List.map_map]
      congr 2
      exact List.map_congr_left fun k _ => hown k (σ k.field)
    · simp only [ha, hb, if_false, List.map_map]
      congr 2
      exact List.map_congr_left fun k _ => hkey k

end

namespace Document

variable {d dA dB dAB dBA : Document} {a b nameA nameB : String} {fieldsA fieldsB : List Field}
  {ρ σ : String → String}

/-- Two substitutions lead to the same document in either order. -/
theorem Substituted.comm (hab : a ≠ b) (hnameA : nameA ≠ b) (hnameB : nameB ≠ a)
    (hA : d.Substituted a nameA fieldsA ρ dA) (hAB : dA.Substituted b nameB fieldsB σ dAB)
    (hB : d.Substituted b nameB fieldsB σ dB) (hBA : dB.Substituted a nameA fieldsA ρ dBA) : dAB = dBA := by
  apply eq_of_parts
  · rw [hAB.entries, hA.entries, hBA.entries, hB.entries, List.map_map, List.map_map]
    exact List.map_congr_left fun e _ => movedEntry_comm hab hnameA hnameB fieldsA fieldsB e
  · rw [hAB.relationships, hA.relationships, hBA.relationships, hB.relationships, List.map_map, List.map_map]
    exact List.map_congr_left fun r _ => Relationship.moved_comm hab hnameA hnameB r
  · rw [hAB.revision, hA.revision, hBA.revision, hB.revision]

/-! ## Two updates -/

/-- The update, made at the present revision of the document. -/
def applyNow (d : Document) (table : String) (u : TableUpdate) : UpdateOutcome :=
  d.applyUpdate table { u with baseRevision := d.revision }

/-- The update gives the table a name that no other table has. -/
def Unclaimed (d : Document) (table : String) (u : TableUpdate) : Prop :=
  ∀ n ∈ d.tableNames, n ≠ table → trim u.name ≠ n

theorem unclaimed_iff {table : String} {u : TableUpdate} :
    d.Unclaimed table u ↔ trim u.name = table ∨ trim u.name ∉ d.tableNames := by
  constructor
  · intro h
    by_cases hn : trim u.name = table
    · exact .inl hn
    · exact .inr fun hc => h _ hc hn rfl
  · rintro (h | h) n hn hne hc
    · exact hne (hc.symm.trans h)
    · exact h (hc ▸ hn)

/-- An update of a table goes through after one of another table, if the two do not give the
same name. -/
theorem accepts_after {uB : TableUpdate} (hab : a ≠ b) (hA : d.Substituted a nameA fieldsA ρ dA)
    (hb : b ∈ d.tableNames) (hok : Acceptable uB.name uB.fields) (hfree : d.Unclaimed b uB)
    (hnames : nameA ≠ trim uB.name) : dA.Accepts b { uB with baseRevision := dA.revision } where
  current := rfl
  known := by
    have hmem := hA.mem_tableNames hb
    rwa [SchemaAtlas.retarget, if_neg hab.symm] at hmem
  acceptable := hok
  free := by
    rw [hA.tableNames]
    rcases unclaimed_iff.1 hfree with hn | hn
    · exact .inl hn
    · refine .inr fun hc => ?_
      obtain ⟨n, hmem, hret⟩ := List.mem_map.1 hc
      unfold SchemaAtlas.retarget at hret
      split at hret
      · exact hnames hret
      · exact hn (hret ▸ hmem)

/-- Both updates go through, and what they substitute can be said of the document before
them. -/
theorem applyNow_both {uA uB : TableUpdate} {tA tB : Table} (hd : d.Closed)
    (hrev : d.revision.toNat + 1 < lastRevision.toNat) (hab : a ≠ b)
    (htA : d.table? a = some tA) (htB : d.table? b = some tB)
    (hokA : Acceptable uA.name uA.fields) (hokB : Acceptable uB.name uB.fields)
    (hnames : trim uA.name ≠ trim uB.name) (hfreeA : d.Unclaimed a uA) (hfreeB : d.Unclaimed b uB) :
    ∃ dA dAB, d.applyNow a uA = .accepted dA ∧ dA.applyNow b uB = .accepted dAB ∧
      d.Substituted a (trim uA.name) (newFields uA) (newName tA.fields uA) dA ∧
      dA.Substituted b (trim uB.name) (newFields uB) (newName tB.fields uB) dAB := by
  have ha := mem_tableNames_of_table? htA
  have hb := mem_tableNames_of_table? htB
  have hlast : d.revision ≠ lastRevision := ne_lastRevision (by omega)
  obtain ⟨dA, hA⟩ := (applyUpdate_accepted_iff hlast).2
    (⟨rfl, ha, hokA, unclaimed_iff.1 hfreeA⟩ : d.Accepts a { uA with baseRevision := d.revision })
  obtain ⟨oldA, holdA, hsubA⟩ := substituted_of_accepted hd hA
  obtain rfl : tA = oldA := Option.some.inj (htA.symm.trans holdA)
  have hlastA : dA.revision ≠ lastRevision := ne_lastRevision (by rw [hsubA.toNat_revision hlast]; omega)
  obtain ⟨dAB, hAB⟩ := (applyUpdate_accepted_iff hlastA).2 (accepts_after hab hsubA hb hokB hfreeB hnames)
  obtain ⟨oldB, holdB, hsubAB⟩ := substituted_of_accepted (hsubA.closed hd) hAB
  -- The first update left the fields of the second table, which decide what is renamed.
  obtain rfl : _ = oldB := Option.some.inj ((hsubA.table?_of_ne hab.symm htB).symm.trans holdB)
  exact ⟨dA, dAB, hA, hAB, hsubA, hsubAB⟩

end Document

open Document in
/-- In a document whose references all lead to tables, take two updates of different tables, each
acceptable by itself. They can be made in either order, each at the revision that it meets, and
lead to the same document, exactly if the two new names differ and neither of them is the name of
another table. -/
theorem updates_commute_iff {d : Document} (hd : d.Closed)
    (hrev : d.revision.toNat + 1 < lastRevision.toNat) {a b : String}
    (ha : a ∈ d.tableNames) (hb : b ∈ d.tableNames) (hab : a ≠ b) {uA uB : TableUpdate}
    (hokA : Acceptable uA.name uA.fields) (hokB : Acceptable uB.name uB.fields) :
    (∃ dA dB d', d.applyNow a uA = .accepted dA ∧ dA.applyNow b uB = .accepted d' ∧
      d.applyNow b uB = .accepted dB ∧ dB.applyNow a uA = .accepted d') ↔
    trim uA.name ≠ trim uB.name ∧ d.Unclaimed a uA ∧ d.Unclaimed b uB := by
  have hlast : d.revision ≠ lastRevision := ne_lastRevision (by omega)
  constructor
  · rintro ⟨dA, dB, d', hA, hAB, hB, -⟩
    have hacceptsA := (applyUpdate_accepted_iff hlast).1 ⟨dA, hA⟩
    have hacceptsB := (applyUpdate_accepted_iff hlast).1 ⟨dB, hB⟩
    have hfreeA : d.Unclaimed a uA := unclaimed_iff.2 hacceptsA.free
    have hfreeB : d.Unclaimed b uB := unclaimed_iff.2 hacceptsB.free
    refine ⟨fun hsame => ?_, hfreeA, hfreeB⟩
    -- Under one name, the second update finds the name taken by the first.
    obtain ⟨old, hold, hsub⟩ := substituted_of_accepted hd hA
    have htaken : trim uA.name ∈ dA.tableNames := mem_tableNames_of_table? (hsub.table?_self hold)
    obtain ⟨hlastA, -⟩ := applyUpdate_accepted hAB
    rcases ((applyUpdate_accepted_iff hlastA).1 ⟨d', hAB⟩).free with hname | hname
    · exact hfreeA b hb hab.symm (hsame.trans hname)
    · exact hname (hsame ▸ htaken)
  · rintro ⟨hnames, hfreeA, hfreeB⟩
    obtain ⟨tA, htA⟩ := exists_table? ha
    obtain ⟨tB, htB⟩ := exists_table? hb
    obtain ⟨dA, dAB, hA, hAB, hsubA, hsubAB⟩ :=
      applyNow_both hd hrev hab htA htB hokA hokB hnames hfreeA hfreeB
    obtain ⟨dB, dBA, hB, hBA, hsubB, hsubBA⟩ :=
      applyNow_both hd hrev hab.symm htB htA hokB hokA hnames.symm hfreeB hfreeA
    have hnameA : trim uA.name ≠ b := hfreeA b hb hab.symm
    have hnameB : trim uB.name ≠ a := hfreeB a ha hab
    obtain rfl : dAB = dBA := Substituted.comm hab hnameA hnameB hsubA hsubAB hsubB hsubBA
    exact ⟨dA, dB, dAB, hA, hAB, hB, hBA⟩

open Document in
/-- Two tables that refer to each other are both renamed, and the two ends of one relationship
with them. -/
theorem updates_commute_iff_crossed :
    let d : Document :=
      ⟨.ofList [("users", ⟨[⟨"id", "INT", true⟩, ⟨"last", "INT", false⟩], [⟨"last", "orders", "id"⟩]⟩),
          ("orders", ⟨[⟨"id", "INT", true⟩, ⟨"user", "INT", false⟩], [⟨"user", "users", "id"⟩]⟩)],
        [⟨"users", "last", "orders", "id"⟩, ⟨"orders", "user", "users", "id"⟩], 7⟩
    let uA : TableUpdate := ⟨" people", [⟨"last", "INT", true⟩, ⟨"id", "INT", false⟩], 0,
      [⟨"id", "last"⟩, ⟨"last", "id"⟩]⟩
    let uB : TableUpdate := ⟨"orders", [⟨"number", "INT", true⟩, ⟨"user", "INT", false⟩], 0, [⟨"id", "number"⟩]⟩
    d.Closed ∧ trim uA.name ≠ trim uB.name ∧ d.Unclaimed "users" uA ∧ d.Unclaimed "orders" uB ∧
      ∃ dA dB d', d.applyNow "users" uA = .accepted dA ∧ dA.applyNow "orders" uB = .accepted d' ∧
        d.applyNow "orders" uB = .accepted dB ∧ dB.applyNow "users" uA = .accepted d' := by
  intro d uA uB
  have hd : d.Closed := ⟨by decide +kernel, by decide +kernel⟩
  have hnames : trim uA.name ≠ trim uB.name := by decide +kernel
  have hfreeA : d.Unclaimed "users" uA := unclaimed_iff.2 (by decide +kernel)
  have hfreeB : d.Unclaimed "orders" uB := unclaimed_iff.2 (by decide +kernel)
  have hokA : Acceptable uA.name uA.fields := tableFlaw?_eq_none_iff.1 (by decide +kernel)
  have hokB : Acceptable uB.name uB.fields := tableFlaw?_eq_none_iff.1 (by decide +kernel)
  have hboth := (updates_commute_iff hd (by decide) (by decide +kernel) (by decide +kernel) (by decide) hokA hokB).2
    ⟨hnames, hfreeA, hfreeB⟩
  exact ⟨hd, hnames, hfreeA, hfreeB, hboth⟩

end SchemaAtlas
