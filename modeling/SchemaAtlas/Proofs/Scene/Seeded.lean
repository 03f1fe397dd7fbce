import Mathlib.Logic.Function.Iterate
import SchemaAtlas.Proofs.Scene.Runs
/-!
# A seeded build forgets what was before

The drawing of a scene is what it shows apart from the selection and from the switch for the edges.
It is made from the document, the layout and the heights that the generator gives. A build with a
seed starts all three anew, so two scenes with the same seed and layout agree after it, whatever
happened to them and whichever generator belongs to the seed (`agree_buildFrom`). From there on only
a new layout draws heights, and it does so alike in both (`agree_relayout`); selections, switches,
the camera and frames change nothing that counts (`agree_still`).
-/

namespace SchemaAtlas.Scene

open SchemaAtlas.Random (Generator)

/-- What a scene shows: its groups, glowing or not, and its edges, visible or not. -/
structure Drawing where
  groups : List Group
  edges : List Edge

/-- The drawing of a scene. -/
def drawing (s : Scene) : Drawing where
  groups := s.arena.groups.map (·.setGlow 0)
  edges := s.edges.map fun e => { e with visible := true }

/-- Two scenes show the same, and new layouts of both will be the same. -/
structure Agree (s t : Scene) : Prop where
  drawing : s.drawing = t.drawing
  layout : s.config.layout = t.config.layout
  generator : s.generator = t.generator

theorem Agree.refl (s : Scene) : Agree s s := ⟨rfl, rfl, rfl⟩

theorem Agree.symm {s t : Scene} (h : Agree s t) : Agree t s := ⟨h.drawing.symm, h.layout.symm, h.generator.symm⟩

theorem Agree.trans {s t u : Scene} (h : Agree s t) (h' : Agree t u) : Agree s u :=
  ⟨h.drawing.trans h'.drawing, h.layout.trans h'.layout, h.generator.trans h'.generator⟩

/-! ## Groups that glow and edges that are hidden -/

theorem setGlow_setGlow (g : Group) (a b : Nat) : (g.setGlow a).setGlow b = g.setGlow b := by
  simp [Group.setGlow, Function.comp_def]

theorem drawing_modify (s : Scene) (i rgb : Nat) (selection : Option Nat) :
    { s with arena := s.arena.modify i (·.setGlow rgb), selection }.drawing = s.drawing := by
  simp only [drawing, Arena.map_modify_setGlow (f := (·.setGlow 0)) fun g rgb => setGlow_setGlow g rgb 0]

theorem agree_clearSelection (s : Scene) : Agree s.clearSelection s := by
  unfold clearSelection dim
  split
  · exact ⟨drawing_modify s _ 0 none, rfl, rfl⟩
  · exact ⟨rfl, rfl, rfl⟩

theorem agree_selectId (s : Scene) (i : Nat) : Agree (s.selectId i) s := by
  have hdim : Agree s.dim s := by
    unfold dim
    split
    · exact ⟨drawing_modify s _ 0 s.selection, rfl, rfl⟩
    · exact Agree.refl s
  exact Agree.trans ⟨drawing_modify s.dim i highlight (some i), rfl, rfl⟩ hdim

theorem agree_selectTable (s : Scene) (name : String) : Agree (s.selectTable name) s := by
  unfold selectTable
  split
  · exact agree_selectId s _
  · exact Agree.refl s

theorem agree_selectAt (s : Scene) (ray : Space.Ray) : Agree (s.selectAt ray) s := by
  unfold selectAt
  split
  · split
    · exact agree_selectId s _
    · exact Agree.refl s
  · exact Agree.refl s

theorem agree_toggleRelationships (s : Scene) : Agree s.toggleRelationships s := by
  refine ⟨?_, rfl, rfl⟩
  simp [drawing, toggleRelationships, Function.comp_def]

/-! ## New layouts -/

/-- An edge is drawn between two positions. -/
theorem reattach_eq (a : Arena) (e : Edge) :
    reattach a e =
      match (a.get? e.source).map Group.position, (a.get? e.target).map Group.position with
      | some p, some q => { e with start := p, stop := q }
      | _, _ => e := by
  unfold reattach
  cases a.get? e.source <;> cases a.get? e.target <;> rfl

theorem reattach_congr {a b : Arena} (h : a.groups.map Group.position = b.groups.map Group.position) :
    reattach a = reattach b := by
  funext e
  simp only [reattach_eq, Arena.get?, ← List.getElem?_map, h]

theorem reattach_visible (a : Arena) (e : Edge) (visible : Bool) :
    reattach a { e with visible } = { reattach a e with visible } := by
  simp only [reattach_eq]
  split <;> rfl

/-- Where the groups of two scenes agree, they agree after a new layout, and so do the next heights. -/
theorem layoutGroups_congr {s t : Scene} (hg : s.arena.groups.map (·.setGlow 0) = t.arena.groups.map (·.setGlow 0))
    (hl : s.config.layout = t.config.layout) (hr : s.generator = t.generator) :
    s.layoutGroups.arena.groups.map (·.setGlow 0) = t.layoutGroups.arena.groups.map (·.setGlow 0) ∧
      s.layoutGroups.generator = t.layoutGroups.generator := by
  have hsize : s.arena.size = t.arena.size := by simpa [Arena.size] using congrArg List.length hg
  have hmove : ∀ (gs : List Group) (ps : List Space.Vec3),
      (gs.zipWith Group.moveTo ps).map (·.setGlow 0) = (gs.map (·.setGlow 0)).zipWith Group.moveTo ps := by
    intro gs ps
    rw [List.map_zipWith, List.zipWith_map_left]
    rfl
  simp only [layoutGroups, hsize, hl, hr, hmove, hg, and_self]

/-- Edges that agree do so after they are drawn again between groups that agree. -/
theorem refreshEdges_congr {s t : Scene} (h : s.drawing = t.drawing) : s.refreshEdges.drawing = t.refreshEdges.drawing := by
  have hgroups := congrArg Drawing.groups h
  have hedges := congrArg Drawing.edges h
  have hpositions : s.arena.groups.map Group.position = t.arena.groups.map Group.position := by
    simpa [drawing, Function.comp_def, Group.setGlow] using congrArg (List.map Group.position) hgroups
  have hshown : ∀ u : Scene, u.refreshEdges.drawing =
      ⟨u.arena.groups.map (·.setGlow 0), (u.edges.map fun e => { e with visible := true }).map (reattach u.arena)⟩ := by
    intro u
    simp [drawing, refreshEdges, Function.comp_def, reattach_visible]
  rw [hshown, hshown, reattach_congr hpositions]
  exact congrArg₂ Drawing.mk hgroups (congrArg (List.map _) hedges)

theorem agree_relayout {s t : Scene} (h : Agree s t) : Agree s.relayout t.relayout := by
  obtain ⟨hgroups, hgenerator⟩ := layoutGroups_congr (congrArg Drawing.groups h.drawing) h.layout h.generator
  have hplaced : s.layoutGroups.drawing = t.layoutGroups.drawing :=
    congrArg₂ Drawing.mk hgroups (congrArg Drawing.edges h.drawing)
  exact ⟨refreshEdges_congr hplaced, h.layout, hgenerator⟩

/-! ## Builds -/

/-- New edges depend on the index of the groups, apart from whether they are visible. -/
theorem edge?_congr {a b : Arena} (h : a.places = b.places) (visible visible' : Bool) (i : Nat) (r : Relationship) :
    (edge? a visible i r).map (fun e => { e with visible := true }) =
      (edge? b visible' i r).map (fun e => { e with visible := true }) := by
  simp only [edge?, Arena.idOf?, h]
  cases b.places.get? r.fromTable <;> cases b.places.get? r.toTable <;> rfl

section

variable (start : UInt64 → Generator) {s t : Scene} {seed : UInt64} (hs : s.config.seed = some seed)
  (ht : t.config.seed = some seed) (hl : s.config.layout = t.config.layout) (d : Document)
include hs ht hl

theorem agree_rebuilt : Agree (s.rebuilt start d) (t.rebuilt start d) := by
  -- Whatever stood in the two arenas, they are the same once they are cleared and filled.
  simp only [rebuilt, hs, ht, Arena.clear_eq]
  generalize (groupsOf d).foldl Arena.insert {} = arena
  obtain ⟨hgroups, hgenerator⟩ := layoutGroups_congr
    (s := { s with document := d, arena, edges := [], selection := none, generator := start seed })
    (t := { t with document := d, arena, edges := [], selection := none, generator := start seed })
    rfl hl rfl
  refine ⟨refreshEdges_congr (congrArg₂ Drawing.mk hgroups ?_), hl, hgenerator⟩
  rw [List.map_filterMap, List.map_filterMap]
  refine List.filterMap_congr fun e _ => edge?_congr ?_ _ _ _ _
  rw [places_layoutGroups, places_layoutGroups]

/-- Scenes with the same seed and layout agree once the same schema was built in both. -/
theorem agree_buildFrom : Agree (s.buildFrom start d) (t.buildFrom start d) := by
  have hselect : ∀ u : Scene, Agree (u.buildFrom start d) (u.rebuilt start d) := by
    intro u
    rw [buildFrom_eq]
    split
    · exact agree_selectTable _ _
    · exact Agree.refl _
  exact ((hselect s).trans (agree_rebuilt start hs ht hl d)).trans (hselect t).symm

end

theorem selection_selectTable (s : Scene) (name : String) :
    (s.selectTable name).selection = (s.arena.idOf? name).or s.selection := by
  unfold selectTable
  cases s.arena.idOf? name <;> rfl

/-- The selected table is selected again, if the new schema has it. -/
theorem selection_buildFrom (start : UInt64 → Generator) (s : Scene) (d : Document) (i : Nat) :
    (s.buildFrom start d).selection = some i ↔
      ∃ name, s.selectedTable = some name ∧ d.tableNames[i]? = some name := by
  have hid : ∀ name, (s.rebuilt start d).arena.idOf? name = some i ↔ d.tableNames[i]? = some name :=
    fun name => (coherent_rebuilt start s d).idOf?_eq_some_iff
  have hnew : (s.rebuilt start d).selection = none := rfl
  rw [buildFrom_eq]
  cases s.selectedTable with
  | none => simp [hnew]
  | some name =>
    rw [selection_selectTable, hnew, Option.or_none, hid]
    simp

/-! ## Runs -/

/-- Whether an event replaces the schema or the configuration. -/
def Event.replaces : Event → Bool
  | .build _ | .finishLoad _ | .finishSave _ (.ok _) | .setConfig _ => true
  | _ => false

/-- Whether an event is a new layout. -/
def Event.isRelayout : Event → Bool
  | .relayout => true
  | _ => false

/-- All other events leave the drawing as it is. -/
theorem agree_still (s : Scene) {e : Event} (he : e.replaces = false) (hl : e.isRelayout = false) : Agree (s.step e) s := by
  cases e with
  | selectAt ray => exact agree_selectAt s ray
  | selectTable name => exact agree_selectTable s name
  | clearSelection => exact agree_clearSelection s
  | toggleRelationships => exact agree_toggleRelationships s
  | relayout => cases hl
  | finishSave editor r =>
    cases r with
    | ok d => cases he
    | error message => exact Agree.refl s
  | toggleParticles => exact ⟨rfl, rfl, rfl⟩
  | moveCamera f => exact ⟨rfl, rfl, rfl⟩
  | tick ms => exact ⟨rfl, rfl, rfl⟩
  | _ => cases he

/-- Of events that replace nothing, only the number of new layouts counts. -/
theorem agree_run {s t : Scene} (h : Agree s t) {es : List Event} (hes : ∀ e ∈ es, e.replaces = false) :
    Agree (s.run es) (relayout^[es.countP Event.isRelayout] t) := by
  induction es generalizing s t with
  | nil => exact h
  | cons e es ih =>
    have hrest : ∀ x ∈ es, x.replaces = false := fun x hx => hes x (List.mem_cons_of_mem _ hx)
    cases he : e.isRelayout with
    | true =>
      rw [List.countP_cons_of_pos he, Function.iterate_succ_apply]
      cases e with
      | relayout => exact ih (agree_relayout h) hrest
      | _ => cases he
    | false =>
      rw [List.countP_cons_of_neg (by simp [he])]
      exact ih ((agree_still s (hes e List.mem_cons_self) he).trans h) hrest

/-- Two scenes with the same seed and layout, whatever happened to them, show the same once the same schema
was built in both and both were laid out anew as often: the same groups at the same positions, and the same
edges between them. What else happens after the build does not matter, unless it replaces the schema or the
configuration. Only the selection remembers: a table that was selected is so again if the new schema has it,
and otherwise nothing is. It does not matter either which generator belongs to a seed, so this holds of
`Scene.build`, where it is `Generator.ofSeed`, as of any other. -/
theorem build_forgets_history (start : UInt64 → Generator) (s t : Scene) {seed : UInt64}
    (hs : s.config.seed = some seed) (ht : t.config.seed = some seed)
    (hl : s.config.layout = t.config.layout) (d : Document) {after after' : List Event}
    (hafter : ∀ e ∈ after, e.replaces = false) (hafter' : ∀ e ∈ after', e.replaces = false)
    (hcount : after.countP Event.isRelayout = after'.countP Event.isRelayout) :
    ((s.buildFrom start d).run after).drawing = ((t.buildFrom start d).run after').drawing ∧
      (∀ i, (s.buildFrom start d).selection = some i ↔
        ∃ name, s.selectedTable = some name ∧ d.tableNames[i]? = some name) ∧
      ∀ i, (t.buildFrom start d).selection = some i ↔
        ∃ name, t.selectedTable = some name ∧ d.tableNames[i]? = some name := by
  refine ⟨?_, selection_buildFrom start s d, selection_buildFrom start t d⟩
  have hrun := agree_run (agree_buildFrom start hs ht hl d) hafter
  have hrun' := agree_run (Agree.refl (t.buildFrom start d)) hafter'
  rw [hcount] at hrun
  exact (hrun.trans hrun'.symm).drawing

/-- A scene that has seen another schema, other layouts and another seed, and a new one. Its selection
survives the build, and a selection is made in between the new layouts. -/
theorem build_forgets_history_reseeded :
    let users : Table := ⟨[⟨"id", "INT", true⟩], []⟩
    let shop : Document := ⟨⟨[("users", users), ("orders", {})], by decide⟩, [⟨"orders", "user", "users", "id"⟩], 1⟩
    let trade : Document := ⟨⟨[("items", {}), ("users", users)], by decide⟩, [⟨"users", "item", "items", "id"⟩], 2⟩
    let old := (new { seed := some 3, particleCount := 0 } (.ofSeed 7)).run
      [.build shop, .selectTable "users", .relayout, .toggleRelationships, .setConfig { seed := some 5, particleCount := 0 }]
    let fresh := new { seed := some 5, particleCount := 2 } (.ofSeed 8)
    let after : List Event := [.relayout, .selectTable "items", .relayout]
    old.selectedTable = some "users" ∧ (old.build trade).selection = some 1 ∧ (fresh.build trade).selection = none ∧
      ((old.build trade).run after).drawing = ((fresh.build trade).run [.relayout, .relayout]).drawing := by
  intro users shop trade old fresh after
  have hselected : old.selectedTable = some "users" := by decide +kernel
  have hnone : fresh.selectedTable = none := rfl
  have hold : old.config.seed = some 5 := rfl
  have hfresh : fresh.config.seed = some 5 := rfl
  have hlayout : old.config.layout = fresh.config.layout := rfl
  -- Nothing else about the two scenes matters.
  clear_value old fresh
  have hafter : ∀ e ∈ after, e.replaces = false := by simp [after, Event.replaces]
  have hafter' : ∀ e ∈ [Event.relayout, .relayout], e.replaces = false := by simp [Event.replaces]
  obtain ⟨hdrawing, hagain, hnothing⟩ :=
    build_forgets_history .ofSeed old fresh hold hfresh hlayout trade hafter hafter' rfl
  refine ⟨hselected, (hagain 1).2 ⟨"users", hselected, rfl⟩, ?_, hdrawing⟩
  refine Option.eq_none_iff_forall_ne_some.2 fun i hi => ?_
  obtain ⟨name, hname, -⟩ := (hnothing i).1 hi
  rw [hnone] at hname
  cases hname

end SchemaAtlas.Scene
