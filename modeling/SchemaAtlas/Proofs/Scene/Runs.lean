import Mathlib.Data.List.Forall2
import SchemaAtlas.Proofs.Scene.Arena
import SchemaAtlas.Scene.Event
/-!
# What every scene keeps

A scene from its start on, through any events. `Coherent` says how its parts fit: the groups
are those of the document's tables, the index of names agrees with them, the edges are drawn
where the groups stand, and the selected group alone glows. Every event keeps it
(`coherent_step`), so it holds of every scene (`coherent_run`); `run_fits_document` says what it
amounts to.
-/

namespace SchemaAtlas.Scene

open SchemaAtlas.Random (Entropy Generator)

/-! ## How the parts fit -/

/-- The glow of the group at a place. -/
def glowAt (selection : Option Nat) (i : Nat) : Color :=
  .hex (if selection = some i then highlight else 0)

/-- The parts of a scene fit. -/
structure Coherent (s : Scene) : Prop where
  groups : s.arena.groups.map Group.bare = groupsOf s.document
  index : s.arena.Indexed
  edges : s.edges = s.document.relationships.zipIdx.filterMap fun (r, i) =>
    drawn? s.arena s.relationshipsVisible i r
  valid : ∀ i, s.selection = some i → i < s.arena.size
  glow : ∀ i g, s.arena.get? i = some g → ∀ m ∈ g.meshes, m.glow = glowAt s.selection i

theorem coherent_new (config : Config) (entropy : Entropy) : Coherent (new config entropy) where
  groups := rfl
  index := Arena.indexed_clear {}
  edges := rfl
  valid := nofun
  glow := nofun

variable {s : Scene}

/-! ## Selecting -/

/-- A glow leaves the groups what they are, the index in agreement and the edges where they are. -/
theorem Coherent.setGlow (h : Coherent s) (i rgb : Nat) :
    (s.arena.modify i (·.setGlow rgb)).groups.map Group.bare = groupsOf s.document ∧
      (s.arena.modify i (·.setGlow rgb)).Indexed ∧
      drawn? (s.arena.modify i (·.setGlow rgb)) = drawn? s.arena := by
  refine ⟨?_, h.index.congr ?_ rfl, drawn?_congr rfl ?_⟩
  · rw [Arena.map_modify_setGlow Group.bare_setGlow, h.groups]
  · exact Arena.map_modify_setGlow (fun _ _ => rfl) ..
  · exact Arena.map_modify_setGlow (fun _ _ => rfl) ..

theorem coherent_clearSelection (h : Coherent s) : Coherent s.clearSelection := by
  unfold clearSelection dim
  split
  · next i hi =>
    obtain ⟨hgroups, hindex, hedges⟩ := h.setGlow i 0
    refine ⟨hgroups, hindex, ?_, nofun, fun j g hg m hm => ?_⟩
    · exact h.edges.trans (by rw [hedges])
    · obtain ⟨g', hg', rfl⟩ := Arena.get?_modify hg
      split at hm
      · exact Group.glow_setGlow hm
      · next hne =>
        rw [h.glow j g' hg' m hm, hi]
        simp [glowAt, hne]
  · next hnone => exact ⟨h.groups, h.index, h.edges, nofun, hnone ▸ h.glow⟩

/-- Where nothing is selected, a group that is there can be. -/
theorem coherent_select (h : Coherent s) (hnone : s.selection = none) {i : Nat} (hi : i < s.arena.size) :
    Coherent { s with arena := s.arena.modify i (·.setGlow highlight), selection := some i } := by
  obtain ⟨hgroups, hindex, hedges⟩ := h.setGlow i highlight
  refine ⟨hgroups, hindex, ?_, ?_, fun j g hg m hm => ?_⟩
  · exact h.edges.trans (by rw [hedges])
  · rintro j hj
    cases hj
    simpa only [Arena.size_modify] using hi
  · obtain ⟨g', hg', rfl⟩ := Arena.get?_modify hg
    split at hm
    · next hij =>
      rw [Group.glow_setGlow hm]
      simp [glowAt, hij]
    · next hne =>
      rw [h.glow j g' hg' m hm, hnone]
      simp [glowAt, hne]

theorem coherent_selectId (h : Coherent s) {i : Nat} (hi : i < s.arena.size) : Coherent (s.selectId i) := by
  have hsize : i < s.clearSelection.arena.size := by
    unfold clearSelection dim
    split
    · simpa only [Arena.size_modify] using hi
    · exact hi
  exact coherent_select (coherent_clearSelection h) rfl hsize

theorem coherent_selectTable (h : Coherent s) (name : String) : Coherent (s.selectTable name) := by
  unfold selectTable
  split
  · next i hi => exact coherent_selectId h (h.index.lt_size hi)
  · exact h

@[simp] theorem document_selectTable (s : Scene) (name : String) : (s.selectTable name).document = s.document := by
  unfold selectTable selectId dim
  split
  · split <;> rfl
  · rfl

theorem coherent_selectAt (h : Coherent s) (ray : Space.Ray) : Coherent (s.selectAt ray) := by
  unfold selectAt
  split
  · split
    · next hit _ hsome =>
      obtain ⟨g, hg⟩ := Option.isSome_iff_exists.1 hsome
      obtain ⟨hlt, -⟩ := List.getElem?_eq_some_iff.1 hg
      exact coherent_selectId h hlt
    · exact h
  · exact h

/-! ## Building -/

theorem table_groupsOf (d : Document) : (groupsOf d).map Group.table = d.tableNames := by
  rw [groupsOf, List.map_map, Document.tableNames, Catalog.names]
  conv_rhs => rw [← List.zipIdx_map_fst 0 d.tables.entries, List.map_map]
  rfl

theorem mem_groupsOf {d : Document} {g : Group} (h : g ∈ groupsOf d) : ∃ name t color, g = .ofTable name t color := by
  obtain ⟨⟨e, i⟩, -, rfl⟩ := List.mem_map.1 h
  exact ⟨_, _, _, rfl⟩

theorem bare_groupsOf (d : Document) : (groupsOf d).map Group.bare = groupsOf d := by
  refine (List.map_congr_left fun g hg => ?_).trans (List.map_id _)
  obtain ⟨name, t, color, rfl⟩ := mem_groupsOf hg
  exact Group.bare_ofTable name t color

/-- The arena is cleared and filled with the groups of the tables. -/
theorem groups_refill (a : Arena) (d : Document) : ((groupsOf d).foldl Arena.insert a.clear).groups = groupsOf d :=
  (Arena.groups_insertAll ..).trans (List.nil_append _)

theorem indexed_groupsOf (a : Arena) (d : Document) : ((groupsOf d).foldl Arena.insert a.clear).Indexed := by
  refine Arena.indexed_refill a ?_
  rw [table_groupsOf]
  exact d.tables.distinct

/-- The scene with a new schema, before anything is selected in it. -/
def rebuilt (start : UInt64 → Generator) (s : Scene) (d : Document) : Scene :=
  let generator := match s.config.seed with
    | some seed => start seed
    | none => s.generator
  let arena := (groupsOf d).foldl Arena.insert s.arena.clear
  let bare := { s with document := d, arena, edges := [], selection := none, generator }
  let placed := bare.layoutGroups
  let edges := d.relationships.zipIdx.filterMap fun (r, i) => edge? placed.arena s.relationshipsVisible i r
  { placed with edges }.refreshEdges

theorem buildFrom_eq (start : UInt64 → Generator) (s : Scene) (d : Document) :
    s.buildFrom start d = match s.selectedTable with
      | some name => (s.rebuilt start d).selectTable name
      | none => s.rebuilt start d :=
  rfl

/-- Nothing of the scene before is left in a new schema. -/
theorem coherent_rebuilt (start : UInt64 → Generator) (s : Scene) (d : Document) : Coherent (s.rebuilt start d) := by
  have hindex : (s.rebuilt start d).arena.Indexed :=
    (indexed_groupsOf s.arena d).congr (map_layoutGroups (fun _ _ => rfl) _) (places_layoutGroups _)
  refine ⟨?_, hindex, ?_, nofun, fun i g hg m hm => ?_⟩
  · refine (map_layoutGroups Group.bare_moveTo _).trans ?_
    rw [groups_refill, bare_groupsOf]
    rfl
  · show List.map _ (List.filterMap _ _) = _
    rw [List.map_filterMap]
    exact List.filterMap_congr fun e _ => reattach_edge? hindex ..
  · obtain ⟨g', hg', hm'⟩ :=
      Arena.get?_of_meshes (b := (groupsOf d).foldl Arena.insert s.arena.clear) (map_layoutGroups (fun _ _ => rfl) _) hg
    rw [Arena.get?, groups_refill] at hg'
    obtain ⟨name, t, color, rfl⟩ := mem_groupsOf (List.mem_of_getElem? hg')
    exact Group.glow_ofTable (hm' ▸ hm)

theorem coherent_buildFrom (start : UInt64 → Generator) (s : Scene) (d : Document) :
    Coherent (s.buildFrom start d) := by
  rw [buildFrom_eq]
  split
  · exact coherent_selectTable (coherent_rebuilt start s d) _
  · exact coherent_rebuilt start s d

theorem coherent_build (s : Scene) (d : Document) : Coherent (s.build d) := coherent_buildFrom .ofSeed s d

@[simp] theorem document_build (s : Scene) (d : Document) : (s.build d).document = d := by
  rw [build, buildFrom_eq]
  split
  · exact document_selectTable ..
  · rfl

theorem coherent_relayout (h : Coherent s) : Coherent s.relayout := by
  have htables := map_layoutGroups (f := Group.table) (fun _ _ => rfl) s
  have hmeshes := map_layoutGroups (f := Group.meshes) (fun _ _ => rfl) s
  have hindex : s.layoutGroups.arena.Indexed := h.index.congr htables (places_layoutGroups s)
  refine ⟨?_, hindex, ?_, fun i hi => ?_, fun i g hg m hm => ?_⟩
  · exact (map_layoutGroups Group.bare_moveTo s).trans h.groups
  · show List.map _ s.edges = _
    rw [h.edges, List.map_filterMap]
    exact List.filterMap_congr fun e _ => reattach_drawn? h.index hindex (places_layoutGroups s).symm ..
  · have hlen := congrArg List.length htables
    simp only [List.length_map] at hlen
    show i < s.layoutGroups.arena.groups.length
    rw [hlen]
    exact h.valid i hi
  · obtain ⟨g', hg', hm'⟩ := Arena.get?_of_meshes hmeshes hg
    exact h.glow i g' hg' m (hm' ▸ hm)

theorem coherent_toggleRelationships (h : Coherent s) : Coherent s.toggleRelationships := by
  refine ⟨h.groups, h.index, ?_, h.valid, h.glow⟩
  show List.map _ s.edges = _
  rw [h.edges, List.map_filterMap]
  exact List.filterMap_congr fun e _ => show_drawn? h.index ..

/-! ## Runs -/

theorem coherent_step (h : Coherent s) (e : Event) : Coherent (s.step e) := by
  cases e with
  | build d => exact coherent_build s d
  | finishLoad r => cases r <;> exact coherent_build s _
  | finishSave editor r =>
    cases r with
    | error message => exact h
    | ok d =>
      simp only [step, finishSave]
      split
      · exact coherent_selectTable (coherent_build s d) _
      · exact coherent_build s d
  | selectAt ray => exact coherent_selectAt h ray
  | selectTable name => exact coherent_selectTable h name
  | clearSelection => exact coherent_clearSelection h
  | relayout => exact coherent_relayout h
  | toggleRelationships => exact coherent_toggleRelationships h
  -- The others touch neither the groups nor the edges nor the selection.
  | setConfig config => exact ⟨h.groups, h.index, h.edges, h.valid, h.glow⟩
  | toggleParticles => exact ⟨h.groups, h.index, h.edges, h.valid, h.glow⟩
  | moveCamera f => exact ⟨h.groups, h.index, h.edges, h.valid, h.glow⟩
  | tick ms => exact ⟨h.groups, h.index, h.edges, h.valid, h.glow⟩

theorem coherent_run (h : Coherent s) (es : List Event) : Coherent (s.run es) := by
  induction es generalizing s with
  | nil => exact h
  | cons e es ih => exact ih (coherent_step h e)

/-! ## What a scene shows -/

/-- The relationships between two tables of a document, each with its place. -/
def joins (d : Document) : List (Relationship × Nat) :=
  d.relationships.zipIdx.filter fun (r, _) => d.tables.contains r.fromTable && d.tables.contains r.toTable

/-- An edge leads from the one table of a relationship to the other, where their groups stand. -/
structure Draws (s : Scene) (e : Edge) (r : Relationship × Nat) : Prop where
  relationship : e.relationship = r.2
  source : s.document.tableNames[e.source]? = some r.1.fromTable
  target : s.document.tableNames[e.target]? = some r.1.toTable
  start : (s.arena.get? e.source).map Group.position = some e.start
  stop : (s.arena.get? e.target).map Group.position = some e.stop
  visible : e.visible = s.relationshipsVisible

theorem Coherent.tables (h : Coherent s) : s.arena.groups.map Group.table = s.document.tableNames := by
  rw [← table_groupsOf, ← h.groups, List.map_map]
  rfl

theorem Coherent.idOf?_eq_some_iff (h : Coherent s) {name : String} {i : Nat} :
    s.arena.idOf? name = some i ↔ s.document.tableNames[i]? = some name := by
  rw [h.index name i, h.tables]

theorem Coherent.idOf?_eq_none_iff (h : Coherent s) {name : String} :
    s.arena.idOf? name = none ↔ name ∉ s.document.tableNames := by
  rw [Option.eq_none_iff_forall_ne_some, List.mem_iff_getElem?, not_exists]
  exact forall_congr' fun i => not_congr h.idOf?_eq_some_iff

theorem Coherent.contains_eq (h : Coherent s) (name : String) :
    s.document.tables.contains name = (s.arena.idOf? name).isSome := by
  rw [Bool.eq_iff_iff, Option.isSome_iff_ne_none, ne_eq, h.idOf?_eq_none_iff, not_not]
  exact List.contains_iff_mem

/-- Where both keep the same elements, a partial map and a filter go along with each other. -/
theorem forall₂_filterMap {α β : Type} {R : β → α → Prop} {f : α → Option β} {p : α → Bool} {l : List α}
    (h : ∀ a ∈ l, p a = false ∧ f a = none ∨ p a = true ∧ ∃ b, f a = some b ∧ R b a) :
    List.Forall₂ R (l.filterMap f) (l.filter p) := by
  induction l with
  | nil => exact .nil
  | cons a l ih =>
    have hrest := ih fun x hx => h x (List.mem_cons_of_mem _ hx)
    rcases h a List.mem_cons_self with ⟨hp, hf⟩ | ⟨hp, b, hf, hR⟩
    · rwa [List.filterMap_cons_none hf, List.filter_cons_of_neg (by simp [hp])]
    · rw [List.filterMap_cons_some hf, List.filter_cons_of_pos hp]
      exact .cons hR hrest

theorem Coherent.draws (h : Coherent s) : List.Forall₂ (Draws s) s.edges (joins s.document) := by
  rw [h.edges]
  refine forall₂_filterMap fun (r, index) _ => ?_
  simp only [h.contains_eq]
  rcases ids_cases s.arena r with hnone | ⟨i, j, hi, hj⟩
  · refine .inl ⟨?_, drawn?_eq_none hnone ..⟩
    rcases hnone with hnone | hnone <;> simp [hnone]
  · obtain ⟨x, y, hx, hy, hd⟩ := drawn?_eq_some h.index hi hj
    refine .inr ⟨by simp [hi, hj], _, hd .., rfl, h.idOf?_eq_some_iff.1 hi, h.idOf?_eq_some_iff.1 hj, ?_, ?_, rfl⟩
    · simp [hx]
    · simp [hy]

/-- A filter that picks one place, or none, gives what stands there. -/
theorem filter_eq_toList {α : Type} {p : α → Bool} {l : List α} {k : Option Nat}
    (h : ∀ i a, l[i]? = some a → p a = decide (k = some i)) :
    l.filter p = (k.bind fun i => l[i]?).toList := by
  induction l generalizing k with
  | nil => cases k <;> rfl
  | cons a l ih =>
    have ha := h 0 a rfl
    have hrest := fun i x hx => h (i + 1) x hx
    match k with
    | none =>
      rw [List.filter_cons_of_neg (by simp [ha]), ih (k := none) (by simpa using hrest)]
      rfl
    | some 0 =>
      rw [List.filter_cons_of_pos (by simp [ha]), ih (k := none) (by simpa using hrest)]
      rfl
    | some (n + 1) =>
      rw [List.filter_cons_of_neg (by simp [ha]), ih (k := some n) (by simpa using hrest)]
      rfl

theorem Coherent.meshes_ne_nil (h : Coherent s) {g : Group} (hg : g ∈ s.arena.groups) : g.meshes ≠ [] := by
  have hbare : g.bare ∈ groupsOf s.document := h.groups ▸ List.mem_map_of_mem hg
  obtain ⟨name, t, color, hname⟩ := mem_groupsOf hbare
  intro hnil
  have := congrArg Group.meshes hname
  simp [Group.bare, Group.setGlow, Group.moveTo, Group.ofTable, hnil] at this

theorem Coherent.highlightedTables_eq (h : Coherent s) : s.highlightedTables = s.selectedTable.toList := by
  have hglow : ∀ i g, s.arena.groups[i]? = some g → g.isHighlighted = decide (s.selection = some i) := by
    intro i g hg
    rw [Group.isHighlighted_of_glow (h.meshes_ne_nil (List.mem_of_getElem? hg)) (h.glow i g hg), glowAt]
    by_cases hi : s.selection = some i
    · rw [if_pos hi, decide_eq_true hi]
      decide
    · rw [if_neg hi, decide_eq_false hi]
      decide
  rw [highlightedTables, filter_eq_toList hglow, selectedTable]
  cases s.selection with
  | none => rfl
  | some i => cases hg : s.arena.groups[i]? <;> simp [Arena.get?, hg]

/-- After any events, the parts of a scene fit its document. The groups are those of the
tables, in their order, and a name leads to the place of its table. The edges are the
relationships between two tables, in their order, drawn where the groups stand. Either
nothing is selected and nothing glows, or one group is selected and it alone glows. -/
theorem run_fits_document (config : Config) (entropy : Entropy) (es : List Event) :
    let s := (new config entropy).run es
    (s.arena.groups.map Group.table = s.document.tableNames ∧
      s.arena.groups.map Group.bare = groupsOf s.document ∧
      (∀ name i, s.arena.idOf? name = some i ↔ s.document.tableNames[i]? = some name) ∧
      (∀ name, s.arena.idOf? name = none ↔ name ∉ s.document.tableNames)) ∧
    List.Forall₂ (Draws s) s.edges (joins s.document) ∧
    (s.selection = none ∧ (∀ g ∈ s.arena.groups, ∀ m ∈ g.meshes, m.glow = .hex 0) ∨
      ∃ i g, s.selection = some i ∧ s.arena.get? i = some g ∧ (∀ m ∈ g.meshes, m.glow = .hex highlight) ∧
        ∀ j other, j ≠ i → s.arena.get? j = some other → ∀ m ∈ other.meshes, m.glow = .hex 0) ∧
    s.highlightedTables = s.selectedTable.toList := by
  intro s
  have h : Coherent s := coherent_run (coherent_new config entropy) es
  refine ⟨⟨h.tables, h.groups, fun _ _ => h.idOf?_eq_some_iff, fun _ => h.idOf?_eq_none_iff⟩, h.draws, ?_,
    h.highlightedTables_eq⟩
  cases hs : s.selection with
  | none =>
    refine .inl ⟨rfl, fun g hg m hm => ?_⟩
    obtain ⟨i, hi⟩ := List.mem_iff_getElem?.1 hg
    rw [h.glow i g hi m hm, hs]
    rfl
  | some i =>
    obtain ⟨g, hg⟩ := Arena.get?_of_lt (h.valid i hs)
    refine .inr ⟨i, g, rfl, hg, fun m hm => ?_, fun j other hne hother m hm => ?_⟩
    · rw [h.glow i g hg m hm, hs, glowAt, if_pos rfl]
    · rw [h.glow j other hother m hm, hs, glowAt, if_neg (by simpa using Ne.symm hne)]

/-- A save that moves the selected table to another place and takes away a table that stood there, while
the edges are hidden. -/
theorem run_fits_document_moved :
    let users : Table := ⟨[⟨"id", "INT", true⟩], []⟩
    let shop : Document := ⟨⟨[("carts", {}), ("orders", {}), ("users", users)], by decide⟩,
      [⟨"orders", "user", "users", "id"⟩], 1⟩
    let trade : Document := ⟨⟨[("users", users), ("items", {}), ("orders", {})], by decide⟩,
      [⟨"users", "role", "roles", "id"⟩, ⟨"orders", "item", "items", "id"⟩], 2⟩
    let es : List Event := [.build shop, .selectTable "users", .toggleRelationships, .relayout,
      .finishSave none (.ok trade)]
    let s := (new { particleCount := 0 } (.ofSeed 7)).run es
    s.document = trade ∧ s.selection = some 0 ∧ s.highlightedTables = ["users"] ∧ s.relationshipsVisible = false ∧
      (s.arena.idOf? "users" = some 0 ∧ s.arena.idOf? "orders" = some 2 ∧ s.arena.idOf? "carts" = none) ∧
      ∃ e, s.edges = [e] ∧ Draws s e (⟨"orders", "item", "items", "id"⟩, 1) := by
  intro users shop trade es s
  obtain ⟨⟨-, -, hplace, hnone⟩, hdraws, -, hlit⟩ := run_fits_document { particleCount := 0 } (.ofSeed 7) es
  have hdocument : s.document = trade := by decide +kernel
  have hjoins : joins trade = [(⟨"orders", "item", "items", "id"⟩, 1)] := by decide +kernel
  have hselected : s.selectedTable = some "users" := by decide +kernel
  refine ⟨hdocument, by decide +kernel, ?_, by decide +kernel, ⟨?_, ?_, ?_⟩, ?_⟩
  · calc s.highlightedTables = s.selectedTable.toList := hlit
      _ = ["users"] := by rw [hselected, Option.toList_some]
  · exact (hplace "users" 0).2 (by rw [hdocument]; rfl)
  · exact (hplace "orders" 2).2 (by rw [hdocument]; rfl)
  · exact (hnone "carts").2 (by rw [hdocument]; decide)
  · have hone : List.Forall₂ (Draws s) s.edges [(⟨"orders", "item", "items", "id"⟩, 1)] := by
      rw [← hjoins, ← hdocument]
      exact hdraws
    obtain ⟨e, es', hdraw, hnil, hes⟩ := List.forall₂_cons_right_iff.1 hone
    rw [List.forall₂_nil_right_iff.1 hnil] at hes
    exact ⟨e, hes, hdraw⟩

end SchemaAtlas.Scene
