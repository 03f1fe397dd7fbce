import Mathlib.Data.List.Nodup
import SchemaAtlas.Proofs.Document.Catalog
import SchemaAtlas.Scene.Basic
/-!
# Groups, places and edges

What the parts of a scene tell about each other. A group may be moved and may glow; what it
shows apart from that is its bare form (`Group.bare`), which is that of its table
(`Group.bare_ofTable`). The index of an arena is kept apart from its groups; that the two agree
(`Arena.Indexed`) is brought about by clearing the arena and putting groups into it whose tables
have different names (`Arena.indexed_refill`). An edge is drawn right (`drawn?`) if it joins the
groups of its relationship's two tables at their positions; edges are drawn right when they are
made and stay so (`reattach_edge?`, `reattach_drawn?`, `show_drawn?`).
-/

namespace SchemaAtlas.Scene

open SchemaAtlas.Random (Generator)
open Space

/-! ## Groups -/

namespace Group

/-- What a group shows, wherever it stands and whether or not it glows. -/
def bare (g : Group) : Group := (g.setGlow 0).moveTo .zero

@[simp] theorem bare_moveTo (g : Group) (p : Vec3) : (g.moveTo p).bare = g.bare := rfl

@[simp] theorem bare_setGlow (g : Group) (rgb : Nat) : (g.setGlow rgb).bare = g.bare := by
  simp [bare, setGlow, Function.comp_def]

theorem glow_setGlow {g : Group} {rgb : Nat} {m : Mesh} (h : m ∈ (g.setGlow rgb).meshes) : m.glow = .hex rgb := by
  obtain ⟨m', -, rfl⟩ := List.mem_map.1 h
  rfl

/-- A new group does not glow. -/
theorem glow_ofTable {name : String} {t : Table} {color : Color} {m : Mesh}
    (h : m ∈ (ofTable name t color).meshes) : m.glow = .hex 0 := by
  simp only [ofTable, List.mem_cons, List.mem_flatMap] at h
  rcases h with rfl | rfl | ⟨e, -, h⟩
  · rfl
  · rfl
  · simp only [fieldMeshes, List.mem_cons, List.not_mem_nil, or_false] at h
    rcases h with rfl | rfl | rfl <;> rfl

theorem bare_ofTable (name : String) (t : Table) (color : Color) :
    (ofTable name t color).bare = ofTable name t color := by
  have hmeshes : (ofTable name t color).meshes.map (fun m => { m with glow := .hex 0 }) =
      (ofTable name t color).meshes := by
    refine (List.map_congr_left fun m hm => ?_).trans (List.map_id _)
    rw [← glow_ofTable hm]
    rfl
  simp only [bare, setGlow, hmeshes]
  rfl

/-- A group whose meshes all have the same glow is highlighted if that is not dark. -/
theorem isHighlighted_of_glow {g : Group} {c : Color} (hne : g.meshes ≠ []) (h : ∀ m ∈ g.meshes, m.glow = c) :
    g.isHighlighted = (c != .hex 0) := by
  obtain ⟨m, ms, hm⟩ := List.exists_cons_of_ne_nil hne
  rw [hm] at h
  cases hc : c != .hex 0 with
  | true => simp [isHighlighted, hm, h m (by simp), hc]
  | false =>
    rw [isHighlighted, hm, List.any_eq_false]
    intro x hx
    simp [h x hx, hc]

end Group

/-! ## Places -/

namespace Arena

variable {a b : Arena}

/-- A name leads to the group that was put in under it last. -/
theorem idOf?_insert (a : Arena) (g : Group) (name : String) :
    (a.insert g).idOf? name = if g.table = name then some a.size else a.idOf? name :=
  Catalog.get?_put ..

/-- The index agrees with the groups: a name leads to a place exactly if the group of that table
stands there. -/
def Indexed (a : Arena) : Prop :=
  ∀ name i, a.idOf? name = some i ↔ (a.groups.map Group.table)[i]? = some name

/-- Nothing is left in an arena that is cleared. -/
theorem clear_eq (a : Arena) : a.clear = {} := rfl

theorem indexed_clear (a : Arena) : a.clear.Indexed := by
  intro name i
  constructor <;> rintro ⟨⟩

/-- Only the tables of the groups matter. -/
theorem Indexed.congr (h : a.Indexed) (ht : b.groups.map Group.table = a.groups.map Group.table)
    (hp : b.places = a.places) : b.Indexed := by
  intro name i
  rw [ht, ← h name i, idOf?, idOf?, hp]

/-- What stands at a place after one more name. -/
theorem getElem?_concat_eq_some_iff {names : List String} {new name : String} {i : Nat} :
    (names ++ [new])[i]? = some name ↔ names[i]? = some name ∨ i = names.length ∧ new = name := by
  rcases Nat.lt_trichotomy i names.length with hlt | rfl | hgt
  · simp [List.getElem?_append_left hlt, Nat.ne_of_lt hlt]
  · simp
  · have hnone : (names ++ [new])[i]? = none := by
      rw [List.getElem?_eq_none_iff, List.length_append, List.length_singleton]
      omega
    simp [hnone, Nat.ne_of_gt hgt, Nat.le_of_lt hgt]

/-- A group of another table leaves the index in agreement. -/
theorem Indexed.insert (h : a.Indexed) {g : Group} (hnew : g.table ∉ a.groups.map Group.table) :
    (a.insert g).Indexed := by
  intro name i
  have htables : (a.insert g).groups.map Group.table = a.groups.map Group.table ++ [g.table] := List.map_append
  rw [idOf?_insert, htables, getElem?_concat_eq_some_iff, List.length_map]
  by_cases hname : g.table = name
  · subst hname
    rw [if_pos rfl, Option.some.injEq]
    constructor
    · exact fun hi => .inr ⟨hi.symm, rfl⟩
    · rintro (hi | ⟨hi, -⟩)
      · -- The name stands nowhere among the earlier groups.
        exact absurd (List.mem_of_getElem? hi) hnew
      · exact hi.symm
  · rw [if_neg hname, h name i]
    simp [hname]

theorem groups_insertAll (gs : List Group) (a : Arena) : (gs.foldl insert a).groups = a.groups ++ gs := by
  induction gs generalizing a with
  | nil => rw [List.foldl_nil, List.append_nil]
  | cons g gs ih => rw [List.foldl_cons, ih, insert, List.append_assoc, List.singleton_append]

/-- Groups of different tables, put in one after the other, leave the index in agreement. -/
theorem Indexed.insertAll {gs : List Group} (h : a.Indexed) (hnodup : ((a.groups ++ gs).map Group.table).Nodup) :
    (gs.foldl Arena.insert a).Indexed := by
  induction gs generalizing a with
  | nil => exact h
  | cons g gs ih =>
    have hnew : g.table ∉ a.groups.map Group.table := fun hmem => by
      rw [List.map_append, List.map_cons] at hnodup
      exact List.disjoint_of_nodup_append hnodup hmem List.mem_cons_self
    refine ih (h.insert hnew) ?_
    rwa [Arena.insert, List.append_assoc, List.singleton_append]

/-- An arena that is cleared and filled with groups of different tables has nothing left in its index. -/
theorem indexed_refill (a : Arena) {gs : List Group} (hnodup : (gs.map Group.table).Nodup) :
    (gs.foldl Arena.insert a.clear).Indexed :=
  (indexed_clear a).insertAll hnodup

theorem Indexed.lt_size (h : a.Indexed) {name : String} {i : Nat} (hid : a.idOf? name = some i) : i < a.size := by
  obtain ⟨hlt, -⟩ := List.getElem?_eq_some_iff.1 ((h name i).1 hid)
  rwa [List.length_map] at hlt

theorem get?_of_lt {a : Arena} {i : Nat} (h : i < a.size) : ∃ g, a.get? i = some g :=
  ⟨a.groups[i], List.getElem?_eq_getElem h⟩

theorem get?_modify {a : Arena} {i j : Nat} {f : Group → Group} {g : Group} (h : (a.modify i f).get? j = some g) :
    ∃ g', a.get? j = some g' ∧ g = if i = j then f g' else g' := by
  rw [get?, modify, List.getElem?_modify] at h
  obtain ⟨g', hg', hf⟩ := Option.map_eq_some_iff.1 h
  refine ⟨g', hg', ?_⟩
  split at hf <;> simp_all

/-- The meshes of a group are found at the same place of an arena with the same meshes. -/
theorem get?_of_meshes {a b : Arena} (h : a.groups.map Group.meshes = b.groups.map Group.meshes) {i : Nat}
    {g : Group} (hg : a.get? i = some g) : ∃ g', b.get? i = some g' ∧ g'.meshes = g.meshes := by
  have hi : (b.groups.map Group.meshes)[i]? = some g.meshes := by
    rw [← h, List.getElem?_map, show a.groups[i]? = some g from hg]
    rfl
  rw [List.getElem?_map] at hi
  exact Option.map_eq_some_iff.1 hi

/-- A glow changes nothing that does not depend on it. -/
theorem map_modify_setGlow {β : Type} {f : Group → β} (hf : ∀ g rgb, f (g.setGlow rgb) = f g) (a : Arena)
    (i rgb : Nat) : (a.modify i (·.setGlow rgb)).groups.map f = a.groups.map f := by
  refine List.ext_getElem? fun j => ?_
  rw [List.getElem?_map, List.getElem?_map, modify, List.getElem?_modify]
  split
  · cases a.groups[j]? <;> simp [hf]
  · simp

theorem size_modify (a : Arena) (i : Nat) (f : Group → Group) : (a.modify i f).size = a.size :=
  List.length_modify ..

end Arena

/-! ## Positions -/

theorem length_positionsFrom (l : Layout) (count n : Nat) (g : Generator) :
    (l.positionsFrom count n g).1.length = n := by
  induction n generalizing g with
  | zero => rfl
  | succ n ih => simp [Layout.positionsFrom, ih]

/-- Moving the groups changes nothing that does not depend on their positions. -/
theorem map_layoutGroups {β : Type} {f : Group → β} (hf : ∀ g p, f (g.moveTo p) = f g) (s : Scene) :
    s.layoutGroups.arena.groups.map f = s.arena.groups.map f := by
  have hlen : (s.config.layout.positions s.arena.size s.generator).1.length = s.arena.groups.length :=
    length_positionsFrom ..
  show (List.zipWith Group.moveTo s.arena.groups
    (s.config.layout.positions s.arena.size s.generator).1).map f = _
  rw [List.map_zipWith]
  refine List.ext_getElem (by simp [hlen]) fun i _ _ => ?_
  simp [hf]

/-- Moving the groups leaves the index as it is. -/
theorem places_layoutGroups (s : Scene) : s.layoutGroups.arena.places = s.arena.places := rfl

/-! ## Edges -/

/-- The edge of a relationship between the groups of its two tables, where they stand. -/
def drawn? (a : Arena) (visible : Bool) (index : Nat) (r : Relationship) : Option Edge := do
  let source ← a.idOf? r.fromTable
  let target ← a.idOf? r.toTable
  let start ← (a.get? source).map Group.position
  let stop ← (a.get? target).map Group.position
  return ⟨index, source, target, start, stop, visible⟩

variable {a b : Arena}

/-- Edges depend on the index and the positions of the groups only. -/
theorem drawn?_congr (hi : a.places = b.places)
    (hp : a.groups.map Group.position = b.groups.map Group.position) : drawn? a = drawn? b := by
  funext visible index r
  simp only [drawn?, Arena.idOf?, Arena.get?, ← List.getElem?_map, hi, hp]

theorem drawn?_eq_none {r : Relationship} (h : a.idOf? r.fromTable = none ∨ a.idOf? r.toTable = none)
    (visible : Bool) (index : Nat) : drawn? a visible index r = none := by
  rcases h with h | h
  · simp [drawn?, h]
  · cases hs : a.idOf? r.fromTable <;> simp [drawn?, h, hs]

theorem drawn?_eq_some (h : a.Indexed) {r : Relationship} {i j : Nat} (hi : a.idOf? r.fromTable = some i)
    (hj : a.idOf? r.toTable = some j) : ∃ x y, a.get? i = some x ∧ a.get? j = some y ∧
      ∀ visible index, drawn? a visible index r = some ⟨index, i, j, x.position, y.position, visible⟩ := by
  obtain ⟨x, hx⟩ := Arena.get?_of_lt (h.lt_size hi)
  obtain ⟨y, hy⟩ := Arena.get?_of_lt (h.lt_size hj)
  exact ⟨x, y, hx, hy, fun visible index => by simp [drawn?, hi, hj, hx, hy]⟩

/-- A relationship has groups for both of its tables, or it has no edge. -/
theorem ids_cases (a : Arena) (r : Relationship) :
    (a.idOf? r.fromTable = none ∨ a.idOf? r.toTable = none) ∨
      ∃ i j, a.idOf? r.fromTable = some i ∧ a.idOf? r.toTable = some j := by
  cases a.idOf? r.fromTable <;> cases a.idOf? r.toTable <;> simp

/-- A new edge is drawn where its groups stand. -/
theorem reattach_edge? (h : a.Indexed) (visible : Bool) (index : Nat) (r : Relationship) :
    (edge? a visible index r).map (reattach a) = drawn? a visible index r := by
  rcases ids_cases a r with hnone | ⟨i, j, hi, hj⟩
  · rw [drawn?_eq_none hnone]
    rcases hnone with hs | ht
    · simp [edge?, hs]
    · cases hs : a.idOf? r.fromTable <;> simp [edge?, ht, hs]
  · obtain ⟨x, y, hx, hy, hd⟩ := drawn?_eq_some h hi hj
    simp [hd, edge?, hi, hj, reattach, hx, hy]

/-- An edge follows groups that are moved. -/
theorem reattach_drawn? (ha : a.Indexed) (hb : b.Indexed) (hp : a.places = b.places) (visible : Bool)
    (index : Nat) (r : Relationship) :
    (drawn? a visible index r).map (reattach b) = drawn? b visible index r := by
  have hid : ∀ name, a.idOf? name = b.idOf? name := fun name => congrArg (·.get? name) hp
  rcases ids_cases b r with hnone | ⟨i, j, hi, hj⟩
  · rw [drawn?_eq_none hnone, drawn?_eq_none (by rwa [hid, hid])]
    rfl
  · obtain ⟨x, y, hx, hy, hd⟩ := drawn?_eq_some hb hi hj
    obtain ⟨x', y', -, -, hd'⟩ := drawn?_eq_some ha ((hid _).trans hi) ((hid _).trans hj)
    simp [hd, hd', reattach, hx, hy]

theorem show_drawn? (h : a.Indexed) (visible shown : Bool) (index : Nat) (r : Relationship) :
    (drawn? a visible index r).map (fun e => { e with visible := shown }) = drawn? a shown index r := by
  rcases ids_cases a r with hnone | ⟨i, j, hi, hj⟩
  · simp [drawn?_eq_none hnone]
  · obtain ⟨x, y, -, -, hd⟩ := drawn?_eq_some h hi hj
    simp [hd]

end SchemaAtlas.Scene
