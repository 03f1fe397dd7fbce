import SchemaAtlas.Proofs.Scene.Saved
import SchemaAtlas.Proofs.Space.Ray
/-!
# What a ray picks

A ray picks the nearest mesh that it meets, and of equally near ones the first (`Arena.pick_eq_some_iff`). The
search goes once over the meshes that are met and keeps the best so far, which splits them into those before it,
all farther away, and those behind it, none nearer (`nearest?_split`). It reads nothing of a mesh but its box, so
no glow has an influence (`pick_congr`): a click names the table that was under the pointer, and selections never
change what is picked (`pick_finds_nearest`).
-/

namespace SchemaAtlas.Scene

open SchemaAtlas.Random (Entropy)
open Space

/-! ## The first of the smallest -/

section

variable {κ δ : Type} {lt : δ → δ → Bool}

theorem nearest?_append_singleton (hits : List (κ × δ)) (x : κ × δ) :
    nearest? lt (hits ++ [x]) =
      match nearest? lt hits with
      | none => some x
      | some b => if lt x.2 b.2 then some x else some b := by
  rw [nearest?, List.foldl_append]
  rfl

theorem nearest?_eq_none_iff {hits : List (κ × δ)} : nearest? lt hits = none ↔ hits = [] := by
  constructor
  · intro h
    induction hits using List.reverseRecOn with
    | nil => rfl
    | append_singleton hits x ih =>
      rw [nearest?_append_singleton] at h
      split at h
      · cases h
      · split at h <;> cases h
  · rintro rfl
    rfl

/-- Whatever is compared by `lt` on a set of values: of two values one is not smaller, and a third one is above the
smaller or below the larger. -/
structure Ranks (lt : δ → δ → Bool) (p : δ → Prop) : Prop where
  asymm : ∀ {x y}, p x → p y → lt x y = true → lt y x = false
  split : ∀ {x y z}, p x → p y → p z → lt x y = true → lt x z = true ∨ lt z y = true

/-- The first of the smallest values: all before it are larger, and none behind it is smaller. -/
theorem nearest?_split {p : δ → Prop} (hlt : Ranks lt p) {hits : List (κ × δ)} (hp : ∀ x ∈ hits, p x.2) {h : κ × δ}
    (hh : nearest? lt hits = some h) :
    ∃ before after, hits = before ++ h :: after ∧ (∀ x ∈ before, lt h.2 x.2 = true) ∧ ∀ x ∈ after, lt x.2 h.2 = false := by
  induction hits using List.reverseRecOn generalizing h with
  | nil => cases hh
  | append_singleton hits x ih =>
    have hx : p x.2 := hp x (by simp)
    have hp' : ∀ y ∈ hits, p y.2 := fun y hy => hp y (by simp [hy])
    rw [nearest?_append_singleton] at hh
    split at hh
    · next hnone =>
      cases hh
      rw [nearest?_eq_none_iff.1 hnone]
      exact ⟨[], [], rfl, by simp, by simp⟩
    · next b hb =>
      obtain ⟨before, after, rfl, hbefore, hafter⟩ := ih hp' hb
      have hpb : p b.2 := hp' b (by simp)
      split at hh
      · next hless =>
        -- The new value is smaller than the best so far, so it is smaller than all others.
        cases hh
        refine ⟨before ++ b :: after, [], rfl, fun y hy => ?_, by simp⟩
        have hpy := hp' y hy
        rcases hlt.split hx hpb hpy hless with hyes | hno
        · exact hyes
        · rcases List.mem_append.1 hy with hy | hy
          · rw [hlt.asymm hpb hpy (hbefore y hy)] at hno
            cases hno
          · rcases List.mem_cons.1 hy with rfl | hy
            · exact hless
            · rw [hafter y hy] at hno
              cases hno
      · next hmore =>
        cases hh
        refine ⟨before, after ++ [x], by simp, hbefore, fun y hy => ?_⟩
        rcases List.mem_append.1 hy with hy | hy
        · exact hafter y hy
        · rw [List.mem_singleton.1 hy]
          exact Bool.not_eq_true _ ▸ hmore

end

/-! ## Meshes that are met -/

/-- A ray meets the mesh of a hit, at its distance. -/
def Meets (a : Arena) (r : Ray) (h : Hit) : Prop :=
  ∃ g m, a.get? h.group = some g ∧ g.meshes[h.mesh]? = some m ∧ (m.box g.position).distance? r = some h.distance

/-- The mesh of one hit comes before that of another: its group does, or it does within the group. -/
def Hit.Before (x y : Hit) : Prop := x.group < y.group ∨ x.group = y.group ∧ x.mesh < y.mesh

/-- The hit is nearest: none is nearer, and those of meshes before it are farther away. -/
structure Nearest (a : Arena) (r : Ray) (h : Hit) : Prop where
  meets : Meets a r h
  least : ∀ x, Meets a r x → ¬ x.distance < h.distance
  first : ∀ x, Meets a r x → x.Before h → h.distance < x.distance

theorem Meets.isNaN {a : Arena} {r : Ray} {h : Hit} (hm : Meets a r h) : h.distance.isNaN = false := by
  obtain ⟨g, m, -, -, hdistance⟩ := hm
  exact Box.isNaN_distance hdistance

/-- The mesh determines the hit. -/
theorem Meets.eq {a : Arena} {r : Ray} {x y : Hit} (hx : Meets a r x) (hy : Meets a r y) (hg : x.group = y.group)
    (hmesh : x.mesh = y.mesh) : x = y := by
  obtain ⟨xg, xm, xd⟩ := x
  obtain ⟨yg, ym, yd⟩ := y
  obtain rfl : xg = yg := hg
  obtain rfl : xm = ym := hmesh
  obtain ⟨g, m, hxg, hxm, hxd⟩ := hx
  obtain ⟨g', m', hyg, hym, hyd⟩ := hy
  obtain rfl := Option.some.inj (hxg.symm.trans hyg)
  obtain rfl := Option.some.inj (hxm.symm.trans hym)
  obtain rfl : xd = yd := Option.some.inj (hxd.symm.trans hyd)
  rfl

/-- Only one hit is nearest. -/
theorem Nearest.unique {a : Arena} {r : Ray} {x y : Hit} (hx : Nearest a r x) (hy : Nearest a r y) : x = y := by
  have hxy : ¬ x.Before y := fun h => hx.least y hy.meets (hy.first x hx.meets h)
  have hyx : ¬ y.Before x := fun h => hy.least x hx.meets (hx.first y hy.meets h)
  unfold Hit.Before at hxy hyx
  exact hx.meets.eq hy.meets (by omega) (by omega)

/-- A hit as it is found in the list of all. -/
def Hit.entry (h : Hit) : (Nat × Nat) × Float32 := ((h.group, h.mesh), h.distance)

namespace Arena

variable {a b : Arena} {r : Ray}

theorem mem_hits {h : Hit} : h.entry ∈ a.hits r ↔ Meets a r h := by
  simp only [hits, Hit.entry, Meets, List.mem_flatMap, List.mem_filterMap, Option.map_eq_some_iff, Prod.mk.injEq,
    Prod.exists, List.mem_zipIdx_iff_getElem?]
  constructor
  · rintro ⟨g, i, hg, m, j, hm, t, ht, ⟨rfl, rfl⟩, rfl⟩
    exact ⟨g, m, hg, hm, ht⟩
  · rintro ⟨g, m, hg, hm, ht⟩
    exact ⟨g, _, hg, m, _, hm, _, ht, ⟨rfl, rfl⟩, rfl⟩

theorem exists_of_mem_hits {x : (Nat × Nat) × Float32} (hx : x ∈ a.hits r) : ∃ h : Hit, x = h.entry ∧ Meets a r h :=
  ⟨⟨x.1.1, x.1.2, x.2⟩, rfl, mem_hits.1 hx⟩

theorem pairwise_zipIdx {α : Type} (l : List α) : l.zipIdx.Pairwise fun x y => x.2 < y.2 := by
  have h : (l.zipIdx.map Prod.snd).Pairwise (· < ·) := by
    rw [List.zipIdx_map_snd]
    exact List.pairwise_lt_range'
  exact List.pairwise_map.1 h

/-- The hits are found group by group, and within a group mesh by mesh. -/
theorem pairwise_hits (a : Arena) (r : Ray) :
    (a.hits r).Pairwise fun x y => x.1.1 < y.1.1 ∨ x.1.1 = y.1.1 ∧ x.1.2 < y.1.2 := by
  rw [hits, List.pairwise_flatMap]
  constructor
  · rintro ⟨g, i⟩ -
    rw [List.pairwise_filterMap]
    refine (pairwise_zipIdx g.meshes).imp ?_
    rintro ⟨m, j⟩ ⟨m', j'⟩ hlt x hx y hy
    obtain ⟨t, -, rfl⟩ := Option.map_eq_some_iff.1 hx
    obtain ⟨t', -, rfl⟩ := Option.map_eq_some_iff.1 hy
    exact .inr ⟨rfl, hlt⟩
  · refine (pairwise_zipIdx a.groups).imp ?_
    rintro ⟨g, i⟩ ⟨g', i'⟩ hlt x hx y hy
    obtain ⟨⟨m, j⟩, -, hx⟩ := List.mem_filterMap.1 hx
    obtain ⟨⟨m', j'⟩, -, hy⟩ := List.mem_filterMap.1 hy
    obtain ⟨t, -, rfl⟩ := Option.map_eq_some_iff.1 hx
    obtain ⟨t', -, rfl⟩ := Option.map_eq_some_iff.1 hy
    exact .inl hlt

theorem ranks_distances : Ranks (fun x y : Float32 => decide (x < y)) fun x => x.isNaN = false where
  asymm hx hy h := decide_eq_false (not_lt_of_lt hx hy (of_decide_eq_true h))
  split hx hy hz h := (lt_or_lt hx hy hz (of_decide_eq_true h)).imp decide_eq_true decide_eq_true

/-- What is picked splits the hits: all before it are farther away, and none behind it is nearer. -/
theorem split_of_pick {h : Hit} (hp : a.pick r = some h) :
    ∃ before after, a.hits r = before ++ h.entry :: after ∧ (∀ y : Hit, y.entry ∈ before → h.distance < y.distance) ∧
      ∀ y : Hit, y.entry ∈ after → ¬ y.distance < h.distance := by
  obtain ⟨x, hx, rfl⟩ := Option.map_eq_some_iff.1 hp
  have hnumbers : ∀ y ∈ a.hits r, y.2.isNaN = false := fun y hy => by
    obtain ⟨h, rfl, hm⟩ := exists_of_mem_hits hy
    exact hm.isNaN
  obtain ⟨before, after, hsplit, hbefore, hafter⟩ := nearest?_split ranks_distances hnumbers hx
  exact ⟨before, after, hsplit, fun y hy => of_decide_eq_true (hbefore y.entry hy),
    fun y hy => of_decide_eq_false (hafter y.entry hy)⟩

theorem nearest_of_pick {h : Hit} (hp : a.pick r = some h) : Nearest a r h := by
  obtain ⟨before, after, hsplit, hbefore, hafter⟩ := split_of_pick hp
  have hmeets : Meets a r h := mem_hits.1 (by simp [hsplit])
  have hpairwise := pairwise_hits a r
  rw [hsplit, List.pairwise_append] at hpairwise
  have hordered := (List.pairwise_cons.1 hpairwise.2.1).1
  have hplace : ∀ y, Meets a r y → y.entry ∈ before ∨ y.entry = h.entry ∨ y.entry ∈ after := fun y hy => by
    have hyhits := mem_hits.2 hy
    rwa [hsplit, List.mem_append, List.mem_cons] at hyhits
  refine ⟨hmeets, fun y hy hless => ?_, fun y hy hlt => ?_⟩
  · rcases hplace y hy with hyb | hyh | hya
    · exact not_lt_of_lt hmeets.isNaN hy.isNaN (hbefore y hyb) hless
    · have hd : y.distance = h.distance := congrArg Prod.snd hyh
      rw [hd] at hless
      exact not_lt_of_lt hmeets.isNaN hmeets.isNaN hless hless
    · exact hafter y hya hless
  · -- Neither the hit itself nor anything behind it in the list comes before it.
    rcases hplace y hy with hyb | hyh | hya
    · exact hbefore y hyb
    · simp only [Hit.entry, Prod.mk.injEq] at hyh
      unfold Hit.Before at hlt
      omega
    · have hbehind := hordered _ hya
      simp only [Hit.Before, Hit.entry] at hlt hbehind
      omega

theorem pick_eq_none_iff : a.pick r = none ↔ ∀ h, ¬ Meets a r h := by
  rw [pick, Option.map_eq_none_iff, nearest?_eq_none_iff, List.eq_nil_iff_forall_not_mem]
  constructor
  · exact fun h x hx => h _ (mem_hits.2 hx)
  · intro h x hx
    obtain ⟨hit, -, hm⟩ := exists_of_mem_hits hx
    exact h hit hm

theorem pick_eq_some_iff {h : Hit} : a.pick r = some h ↔ Nearest a r h := by
  refine ⟨nearest_of_pick, fun hnearest => ?_⟩
  cases hp : a.pick r with
  | none => exact absurd hnearest.meets (pick_eq_none_iff.1 hp h)
  | some x => rw [(nearest_of_pick hp).unique hnearest]

end Arena

/-! ## Glows -/

/-- The boxes of a group's meshes. -/
def Group.boxes (g : Group) : List Box := g.meshes.map (·.box g.position)

theorem Group.boxes_setGlow (g : Group) (rgb : Nat) : (g.setGlow rgb).boxes = g.boxes := by
  simp only [boxes, setGlow, List.map_map]
  rfl

theorem Arena.hits_eq (a : Arena) (r : Ray) :
    a.hits r = (a.groups.map Group.boxes).zipIdx.flatMap fun (boxes, i) =>
      boxes.zipIdx.filterMap fun (box, j) => (box.distance? r).map fun t => ((i, j), t) := by
  simp only [hits, List.zipIdx_map, List.flatMap_map, Prod.map_apply', Group.boxes, List.filterMap_map]
  rfl

theorem Arena.pick_congr {a b : Arena} (h : a.groups.map Group.boxes = b.groups.map Group.boxes) (r : Ray) :
    a.pick r = b.pick r := by
  rw [pick, pick, hits_eq, hits_eq, h]

section

variable {s t : Scene}

/-- What a glow leaves is alike in scenes that show the same. -/
theorem map_groups_of_drawing {β : Type} {f : Group → β} (hf : ∀ g rgb, f (g.setGlow rgb) = f g) (h : s.drawing = t.drawing) :
    s.arena.groups.map f = t.arena.groups.map f := by
  have hgroups := congrArg (List.map f) (congrArg Drawing.groups h)
  simpa only [drawing, List.map_map, Function.comp_def, hf] using hgroups

theorem pick_of_drawing (h : s.drawing = t.drawing) (r : Ray) : s.arena.pick r = t.arena.pick r :=
  Arena.pick_congr (map_groups_of_drawing Group.boxes_setGlow h) r

theorem table_of_drawing (h : s.drawing = t.drawing) (i : Nat) :
    (s.arena.get? i).map Group.table = (t.arena.get? i).map Group.table := by
  simp only [Arena.get?, ← List.getElem?_map, map_groups_of_drawing (f := Group.table) (fun _ _ => rfl) h]

theorem tableAt_of_drawing (h : s.drawing = t.drawing) (r : Ray) : s.tableAt r = t.tableAt r := by
  simp only [tableAt, pick_of_drawing h, table_of_drawing h]

end

/-! ## Clicks -/

section

variable (s : Scene) (r : Ray)

theorem click_eq : s.click r = (s.tableAt r, s.selectAt r) := by
  unfold click tableAt selectAt
  cases s.arena.pick r with
  | none => rfl
  | some h => cases hg : s.arena.get? h.group <;> simp [hg]

/-- What is hit has a group, so every hit is a table's. -/
theorem tableAt_eq_none_iff : s.tableAt r = none ↔ s.arena.pick r = none := by
  unfold tableAt
  cases hp : s.arena.pick r with
  | none => simp
  | some h =>
    obtain ⟨g, m, hg, -, -⟩ := (Arena.nearest_of_pick hp).meets
    simp [hg]

theorem selectedTable_selectId (i : Nat) : (s.selectId i).selectedTable = (s.arena.get? i).map Group.table :=
  table_of_drawing (agree_selectId s i).drawing i

theorem selectedTable_selectAt : (s.selectAt r).selectedTable = (s.tableAt r).or s.selectedTable := by
  unfold selectAt tableAt
  cases hp : s.arena.pick r with
  | none => rfl
  | some h =>
    obtain ⟨g, m, hg, -, -⟩ := (Arena.nearest_of_pick hp).meets
    simp [hg, selectedTable_selectId]

end

/-- Events after which the same is shown. -/
theorem drawing_run (s : Scene) {es : List Event} (hes : ∀ e ∈ es, e.replaces = false ∧ e.isRelayout = false) :
    (s.run es).drawing = s.drawing := by
  have hagree := agree_run (Agree.refl s) fun e he => (hes e he).1
  rw [List.countP_eq_zero.2 fun e he => by simp [hes e he]] at hagree
  exact hagree.drawing

/-- A ray picks a mesh exactly if it is nearest of all that it meets: none is nearer, and those before it are farther
away. Distances are always numbers, and nothing is picked exactly if nothing is met. In every scene, a click names the
table under the pointer and selects it; nothing is under the pointer exactly if nothing is picked. What rays pick stays
the same through selections and whatever else happens, up to a new schema, configuration or layout. -/
theorem pick_finds_nearest (a : Arena) (r : Ray) (config : Config) (entropy : Entropy) (es : List Event) :
    ((∀ h, Meets a r h → h.distance.isNaN = false) ∧ (a.pick r = none ↔ ∀ h, ¬ Meets a r h) ∧
      ∀ h, a.pick r = some h ↔ Nearest a r h) ∧
    let s := (new config entropy).run es
    (s.click r = (s.tableAt r, s.selectAt r) ∧ (s.tableAt r = none ↔ s.arena.pick r = none) ∧
      (s.selectAt r).selectedTable = (s.tableAt r).or s.selectedTable ∧
      (s.selectAt r).highlightedTables = ((s.tableAt r).or s.selectedTable).toList) ∧
    ∀ after : List Event, (∀ e ∈ after, e.replaces = false ∧ e.isRelayout = false) →
      (s.run after).arena.pick r = s.arena.pick r ∧ (s.run after).tableAt r = s.tableAt r := by
  refine ⟨⟨fun _ hm => hm.isNaN, Arena.pick_eq_none_iff, fun _ => Arena.pick_eq_some_iff⟩, ?_⟩
  intro s
  have h : Coherent s := coherent_run (coherent_new config entropy) es
  refine ⟨⟨click_eq s r, tableAt_eq_none_iff s r, selectedTable_selectAt s r, ?_⟩, fun after hafter => ?_⟩
  · rw [(coherent_selectAt h r).highlightedTables_eq, selectedTable_selectAt]
  · have hsame := drawing_run s hafter
    exact ⟨pick_of_drawing hsame r, tableAt_of_drawing hsame r⟩

/-- Of four cubes, the ray meets a far one first, then two at the same distance; it misses the fourth. A scene in
which tables are selected meanwhile. -/
theorem pick_finds_nearest_twins :
    let cube (table : String) (position : Vec3) : Group :=
      ⟨table, position, .white, [.solid .header .zero ⟨2, 2, 2⟩ .white]⟩
    let a : Arena := [cube "far" ⟨0, 0, -8⟩, cube "left" ⟨-1, 0, 0⟩, cube "right" ⟨1, 0, 0⟩, cube "off" ⟨0, 9, 5⟩].foldl
      Arena.insert {}
    let r : Ray := ⟨⟨0, 0, 10⟩, ⟨0, 0, -1⟩⟩
    let d : Document := ⟨⟨[("users", ⟨[⟨"id", "INT", true⟩], []⟩), ("orders", {})], by decide⟩, [], 1⟩
    let s := (new { particleCount := 0 } (.ofSeed 7)).run [.build d, .selectTable "users"]
    let after : List Event := [.selectTable "orders", .selectAt r, .clearSelection, .toggleRelationships, .tick 16]
    (∃ h, a.pick r = some h ∧ (h.group, h.mesh, h.distance) = (1, 0, 9) ∧ Nearest a r h) ∧
      Meets a r ⟨2, 0, 9⟩ ∧ Meets a r ⟨0, 0, 17⟩ ∧
      (s.run after).tableAt r = s.tableAt r ∧
      (s.selectAt r).highlightedTables = ((s.tableAt r).or (some "users")).toList := by
  intro cube a r d s after
  obtain ⟨⟨-, -, hpick⟩, hclick, hsame⟩ :=
    pick_finds_nearest a r { particleCount := 0 } (.ofSeed 7) [.build d, .selectTable "users"]
  have hselected : s.selectedTable = some "users" := by decide +kernel
  refine ⟨?_, ?_, ?_, (hsame after (by simp [after, Event.replaces, Event.isRelayout])).2, ?_⟩
  · have hfirst : (a.pick r).map (fun h => (h.group, h.mesh, h.distance)) = some (1, 0, 9) := by decide +kernel
    obtain ⟨h, hh, hplace⟩ := Option.map_eq_some_iff.1 hfirst
    exact ⟨h, hh, hplace, (hpick h).1 hh⟩
  · exact ⟨_, _, rfl, rfl, by decide +kernel⟩
  · exact ⟨_, _, rfl, rfl, by decide +kernel⟩
  · rw [hclick.2.2.2, hselected]

end SchemaAtlas.Scene
