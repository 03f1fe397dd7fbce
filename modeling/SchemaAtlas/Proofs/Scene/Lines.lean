import SchemaAtlas.Proofs.Document.Refusals
import SchemaAtlas.Proofs.Scene.Runs
/-!
# The side panel and the drawn edges

The side panel of a table has a line for every relationship that touches the table; it is made from the
document when it is shown. The edges are made once for the whole document, from the groups. The two agree:
where the other end of a line is a table, the line tells of an edge (`Tells`), and the lines and the edges at
the group of the table follow each other (`Coherent.tells`). Read for all tables one after the other, every
edge is found once from its source and, unless it leads back there, once from its target
(`lines_match_edges`).
-/

namespace SchemaAtlas.Scene

open SchemaAtlas.Random (Entropy)

/-! ## Lists that go along with each other -/

section

variable {α β γ κ : Type}

/-- Where two partial maps keep the same elements, their results go along with each other. -/
theorem forall₂_filterMap₂ {R : β → γ → Prop} {f : α → Option β} {g : α → Option γ} {l : List α}
    (h : ∀ a ∈ l, f a = none ∧ g a = none ∨ ∃ b c, f a = some b ∧ g a = some c ∧ R b c) :
    List.Forall₂ R (l.filterMap f) (l.filterMap g) := by
  induction l with
  | nil => exact .nil
  | cons a l ih =>
    have hrest := ih fun x hx => h x (List.mem_cons_of_mem _ hx)
    rcases h a List.mem_cons_self with ⟨hf, hg⟩ | ⟨b, c, hf, hg, hR⟩
    · rwa [List.filterMap_cons_none hf, List.filterMap_cons_none hg]
    · rw [List.filterMap_cons_some hf, List.filterMap_cons_some hg]
      exact .cons hR hrest

/-- A filter on the one of two lists, read on the other. -/
theorem filter_zip {R : β → γ → Prop} {bs : List β} {cs : List γ} (h : List.Forall₂ R bs cs) {p : β → Bool}
    {q : γ → Bool} (hpq : ∀ b c, R b c → p b = q c) :
    ((bs.zip cs).filter fun x => p x.1).map Prod.snd = cs.filter q := by
  have hsame : (bs.zip cs).filter (fun x => p x.1) = (bs.zip cs).filter (q ∘ Prod.snd) :=
    List.filter_congr fun x hx => hpq x.1 x.2 (List.forall₂_zip h hx)
  rw [hsame, ← List.filter_map, List.map_snd_zip (Nat.le_of_eq h.length_eq.symm)]

/-- Elements sorted by keys that are all different are the elements. -/
theorem flatMap_filter_perm [DecidableEq κ] (key : α → κ) {keys : List κ} (hkeys : keys.Nodup) {l : List α}
    (h : ∀ a ∈ l, key a ∈ keys) : (keys.flatMap fun k => l.filter fun a => decide (key a = k)).Perm l := by
  induction keys generalizing l with
  | nil =>
    cases l with
    | nil => exact .nil
    | cons a l => exact absurd (h a List.mem_cons_self) List.not_mem_nil
  | cons k keys ih =>
    obtain ⟨hk, hkeys⟩ := List.nodup_cons.1 hkeys
    -- The other keys find the elements that the first one leaves.
    have hrest : (keys.flatMap fun k' => l.filter fun a => decide (key a = k')) =
        keys.flatMap fun k' => (l.filter fun a => !decide (key a = k)).filter fun a => decide (key a = k') := by
      refine List.flatMap_congr fun k' hk' => ?_
      rw [List.filter_filter]
      refine List.filter_congr fun a _ => ?_
      by_cases hkey : key a = k'
      · have hne : k' ≠ k := fun heq => hk (heq ▸ hk')
        simp [hkey, hne]
      · simp [hkey]
    have hleft : ∀ a ∈ l.filter fun a => !decide (key a = k), key a ∈ keys := by
      intro a ha
      obtain ⟨hmem, hne⟩ := List.mem_filter.1 ha
      exact (List.mem_cons.1 (h a hmem)).resolve_left (by simpa using hne)
    rw [List.flatMap_cons, hrest]
    exact ((ih hkeys hleft).append_left _).trans (List.filter_append_perm _ l)

/-- Where no key occurs twice, a key finds its element. -/
theorem filter_key [DecidableEq κ] {key : α → κ} {l : List α} (h : (l.map key).Nodup) {a : α} (ha : a ∈ l) :
    (l.filter fun x => key x == key a) = [a] := by
  have hone : (l.filter fun x => key x == key a).map key = [key a] := by
    have hkeys : (l.map key).filter (· == key a) = [key a] := by
      rw [List.filter_beq, List.count_eq_one_of_mem h (List.mem_map_of_mem ha), List.replicate_one]
    rwa [List.filter_map] at hkeys
  obtain ⟨x, hx⟩ := List.length_eq_one_iff.1 (by simpa using congrArg List.length hone)
  have hmem : a ∈ l.filter fun x => key x == key a := List.mem_filter.2 ⟨ha, beq_self_eq_true _⟩
  rw [hx, List.mem_singleton] at hmem
  rw [hx, hmem]

end

/-! ## What is listed for a table -/

/-- The edges at a group, in order. -/
def edgesAt (s : Scene) (id : Nat) : List Edge := s.edges.filter fun e => e.source == id || e.target == id

/-- The lines of a description whose other end is a table, too. -/
def shownLines (d : Document) (info : Description) : List RelationLine :=
  info.relations.filter fun l => d.tables.contains l.table

/-- The lines of the side panel of a table, each with its edge. -/
def listing (s : Scene) (name : String) : List (RelationLine × Edge) :=
  match s.document.describe? name, s.arena.idOf? name with
  | some info, some id => (shownLines s.document info).zip (s.edgesAt id)
  | _, _ => []

/-- What a line of a table says of an edge at the table's group. -/
inductive Tells (s : Scene) (id : Nat) : RelationLine → Edge → Prop
  /-- The edge starts at the group: the line leads to its target. -/
  | outgoing {e : Edge} {r : Relationship} (hr : s.document.relationships[e.relationship]? = some r)
      (hs : e.source = id) (ht : s.arena.idOf? r.toTable = some e.target) :
      Tells s id ⟨.outgoing, r.toTable, r.toField⟩ e
  /-- The edge ends at the group and starts elsewhere: the line names its source. -/
  | incoming {e : Edge} {r : Relationship} (hr : s.document.relationships[e.relationship]? = some r)
      (hs : e.source ≠ id) (ht : e.target = id) (ho : s.arena.idOf? r.fromTable = some e.source) :
      Tells s id ⟨.incoming, r.fromTable, r.fromField⟩ e

variable {s : Scene}

theorem Tells.direction_eq {id : Nat} {l : RelationLine} {e : Edge} (h : Tells s id l e) :
    l.direction = if e.source = id then .outgoing else .incoming := by
  cases h with
  | outgoing hr hs ht => rw [if_pos hs]
  | incoming hr hs ht ho => rw [if_neg hs]

/-! ## One table -/

/-- The line of a relationship, if it touches the table and its other end is a table. -/
def line? (d : Document) (name : String) (r : Relationship) : Option RelationLine :=
  if (r.fromTable == name || r.toTable == name) && d.tables.contains (r.line name).table then some (r.line name)
  else none

theorem shownLines_eq {d : Document} {name : String} {info : Description} (h : d.describe? name = some info) :
    shownLines d info = d.relationships.zipIdx.filterMap fun x => line? d name x.1 := by
  obtain ⟨t, -, rfl⟩ := Option.map_eq_some_iff.1 h
  have hplaces : (d.relationships.zipIdx.filterMap fun x => line? d name x.1) =
      d.relationships.filterMap (line? d name) := by
    conv_rhs => rw [← List.zipIdx_map_fst 0 d.relationships, List.filterMap_map]
    rfl
  rw [hplaces, shownLines, Document.relationshipsOf, List.filter_map, List.filter_filter, ← List.filterMap_eq_map,
    ← List.filterMap_eq_filter, List.filterMap_filterMap]
  refine List.filterMap_congr fun r _ => ?_
  simp only [line?, Option.guard, Function.comp_apply, Bool.and_comm]
  split <;> rfl

/-- A table is known by the place of its group. -/
theorem Coherent.idOf?_inj (h : Coherent s) {a b : String} {i j : Nat} (ha : s.arena.idOf? a = some i)
    (hb : s.arena.idOf? b = some j) : a = b ↔ i = j := by
  constructor
  · rintro rfl
    exact Option.some.inj (ha.symm.trans hb)
  · rintro rfl
    exact Option.some.inj ((h.idOf?_eq_some_iff.1 ha).symm.trans (h.idOf?_eq_some_iff.1 hb))

/-- A relationship has both a line of a table and an edge at its group, or neither. -/
theorem Coherent.line_edge (h : Coherent s) {name : String} {id : Nat} (hid : s.arena.idOf? name = some id)
    {r : Relationship} {k : Nat} (hr : s.document.relationships[k]? = some r) :
    let edge? := (drawn? s.arena s.relationshipsVisible k r).filter fun e => e.source == id || e.target == id
    line? s.document name r = none ∧ edge? = none ∨
      ∃ l e, line? s.document name r = some l ∧ edge? = some e ∧ Tells s id l e := by
  simp only [line?, h.contains_eq]
  rcases ids_cases s.arena r with hnone | ⟨i, j, hi, hj⟩
  · refine .inl ⟨if_neg ?_, by rw [drawn?_eq_none hnone]; rfl⟩
    -- One end is no table; if the other one is the table of the lines, the line leads there.
    rw [Bool.and_eq_true, Bool.or_eq_true, beq_iff_eq, beq_iff_eq]
    rintro ⟨htouches, hother⟩
    rw [Relationship.line] at hother
    rcases hnone with hnone | hnone
    · have hfrom : r.fromTable ≠ name := by
        rintro rfl
        rw [hid] at hnone
        cases hnone
      rw [if_neg (by simpa using hfrom), hnone] at hother
      cases hother
    · have hto : r.toTable ≠ name := by
        rintro rfl
        rw [hid] at hnone
        cases hnone
      rw [if_pos (by simpa using htouches.resolve_right hto), hnone] at hother
      cases hother
  · obtain ⟨x, y, -, -, hd⟩ := drawn?_eq_some h.index hi hj
    have hfrom := h.idOf?_inj hi hid
    have hto := h.idOf?_inj hj hid
    rw [hd, Option.filter_some]
    by_cases hstart : i = id
    · refine .inr ⟨⟨.outgoing, r.toTable, r.toField⟩, ⟨k, i, j, x.position, y.position, s.relationshipsVisible⟩,
        ?_, ?_, .outgoing hr hstart hj⟩
      · simp [Relationship.line, hfrom.2 hstart, hj]
      · simp [hstart]
    · by_cases hstop : j = id
      · refine .inr ⟨⟨.incoming, r.fromTable, r.fromField⟩, ⟨k, i, j, x.position, y.position, s.relationshipsVisible⟩,
          ?_, ?_, .incoming hr hstart hstop hi⟩
        · simp [Relationship.line, mt hfrom.1 hstart, hto.2 hstop, hi]
        · simp [hstop]
      · refine .inl ⟨if_neg ?_, ?_⟩
        · simp [mt hfrom.1 hstart, mt hto.1 hstop]
        · simp [hstart, hstop]

theorem Coherent.edgesAt_eq (h : Coherent s) (id : Nat) :
    s.edgesAt id = s.document.relationships.zipIdx.filterMap fun x =>
      (drawn? s.arena s.relationshipsVisible x.2 x.1).filter fun e => e.source == id || e.target == id := by
  rw [edgesAt, h.edges, List.filter_filterMap]

/-- The lines of a table and the edges at its group go along with each other. -/
theorem Coherent.tells (h : Coherent s) {name : String} {info : Description} {id : Nat}
    (hinfo : s.document.describe? name = some info) (hid : s.arena.idOf? name = some id) :
    List.Forall₂ (Tells s id) (shownLines s.document info) (s.edgesAt id) := by
  rw [shownLines_eq hinfo, h.edgesAt_eq]
  refine forall₂_filterMap₂ fun x hx => ?_
  exact h.line_edge hid (List.mem_zipIdx_iff_getElem?.1 hx)

theorem Coherent.listing_eq (h : Coherent s) {name : String} (hname : name ∈ s.document.tableNames) :
    ∃ info id, s.document.describe? name = some info ∧ s.arena.idOf? name = some id ∧
      s.listing name = (shownLines s.document info).zip (s.edgesAt id) := by
  obtain ⟨t, ht⟩ := Document.exists_table? hname
  obtain ⟨id, hid⟩ := Option.ne_none_iff_exists'.1 (mt h.idOf?_eq_none_iff.1 (not_not.2 hname))
  have hinfo : s.document.describe? name = some _ := congrArg (Option.map _) ht
  exact ⟨_, id, hinfo, hid, by rw [listing, hinfo, hid]⟩

/-- No relationship has two edges. -/
theorem Coherent.nodup_relationship (h : Coherent s) : (s.edges.map Edge.relationship).Nodup := by
  have hplaces : s.edges.map Edge.relationship = (joins s.document).map Prod.snd := by
    rw [← List.forall₂_eq_eq_eq, List.forall₂_map_left_iff, List.forall₂_map_right_iff]
    exact h.draws.imp fun e r hdraws => hdraws.relationship
  have hsub : ((joins s.document).map Prod.snd).Sublist (s.document.relationships.zipIdx.map Prod.snd) :=
    List.filter_sublist.map _
  rw [hplaces]
  refine hsub.nodup ?_
  rw [List.zipIdx_map_snd]
  exact List.nodup_range'

/-- A relationship of a table with itself has one edge and one line. -/
theorem Coherent.self_reference (h : Coherent s) {name : String} {info : Description} {id : Nat}
    (hinfo : s.document.describe? name = some info) (hid : s.arena.idOf? name = some id) {k : Nat} {r : Relationship}
    (hr : s.document.relationships[k]? = some r) (hfrom : r.fromTable = name) (hto : r.toTable = name) :
    ∃ e, s.edges.filter (·.relationship == k) = [e] ∧ e.source = id ∧ e.target = id ∧
      ((shownLines s.document info).zip (s.edgesAt id)).filter (·.2.relationship == k) =
        [(⟨.outgoing, name, r.toField⟩, e)] := by
  obtain ⟨x, y, -, -, hd⟩ := drawn?_eq_some h.index (hfrom ▸ hid) (hto ▸ hid)
  have hd := hd s.relationshipsVisible k
  generalize he : (⟨k, id, id, x.position, y.position, s.relationshipsVisible⟩ : Edge) = e at hd
  obtain rfl : k = e.relationship := by rw [← he]
  have hsource : e.source = id := by rw [← he]
  have htarget : e.target = id := by rw [← he]
  have hmem : e ∈ s.edges := by
    rw [h.edges]
    exact List.mem_filterMap.2 ⟨(r, e.relationship), List.mem_zipIdx_iff_getElem?.2 hr, hd⟩
  refine ⟨e, filter_key h.nodup_relationship hmem, hsource, htarget, ?_⟩
  have htells := h.tells hinfo hid
  have hone : (((shownLines s.document info).zip (s.edgesAt id)).filter (·.2.relationship == e.relationship)).map
      Prod.snd = [e] := by
    have hnodup : ((s.edgesAt id).map Edge.relationship).Nodup := (List.filter_sublist.map _).nodup h.nodup_relationship
    have hat : e ∈ s.edgesAt id := List.mem_filter.2 ⟨hmem, by simp [hsource]⟩
    have hzip := List.map_snd_zip (Nat.le_of_eq htells.length_eq.symm)
    rw [← filter_key hnodup hat, ← congrArg (List.filter _) hzip, List.filter_map]
    rfl
  obtain ⟨⟨l, e'⟩, hpair⟩ := List.length_eq_one_iff.1 (by simpa using congrArg List.length hone)
  rw [hpair, List.map_singleton, List.singleton_inj] at hone
  subst hone
  -- The line tells of the edge, which starts at the group.
  have hlisted : (l, e') ∈ (shownLines s.document info).zip (s.edgesAt id) :=
    (List.mem_filter.1 (hpair ▸ List.mem_singleton_self _)).1
  rw [hpair]
  cases List.forall₂_zip htells hlisted with
  | outgoing hr' hs ht =>
    obtain rfl := Option.some.inj (hr.symm.trans hr')
    rw [hto]
  | incoming hr' hs ht ho => exact absurd hsource hs

/-! ## All tables -/

theorem Coherent.ends (h : Coherent s) {e : Edge} (he : e ∈ s.edges) :
    (∃ name, s.arena.idOf? name = some e.source) ∧ ∃ name, s.arena.idOf? name = some e.target := by
  rw [h.edges] at he
  obtain ⟨⟨r, k⟩, -, hd⟩ := List.mem_filterMap.1 he
  dsimp only at hd
  rcases ids_cases s.arena r with hnone | ⟨i, j, hi, hj⟩
  · rw [drawn?_eq_none hnone] at hd
    cases hd
  · obtain ⟨x, y, -, -, hdrawn⟩ := drawn?_eq_some h.index hi hj
    rw [hdrawn] at hd
    cases hd
    exact ⟨⟨_, hi⟩, ⟨_, hj⟩⟩

/-- The lines of one direction in all tables tell of edges that are sorted by one of their ends. -/
theorem Coherent.listed_perm (h : Coherent s) {direction : Direction} {edges : List Edge} (place : Edge → Nat)
    (hplace : ∀ e ∈ edges, ∃ name, s.arena.idOf? name = some (place e))
    (hedges : ∀ id, (s.edgesAt id).filter (fun e => (if e.source = id then .outgoing else .incoming) == direction) =
      edges.filter fun e => decide (place e = id)) :
    (((s.document.tableNames.flatMap s.listing).filter (·.1.direction == direction)).map Prod.snd).Perm edges := by
  have hkeys : (s.document.tableNames.map some).Nodup :=
    s.document.tables.distinct.map fun a b hab => Option.some.inj hab
  have hperm := flatMap_filter_perm (fun e => s.document.tableNames[place e]?) hkeys (l := edges) fun e he => by
    obtain ⟨name, hname⟩ := hplace e he
    rw [h.idOf?_eq_some_iff.1 hname]
    exact List.mem_map_of_mem (List.mem_of_getElem? (h.idOf?_eq_some_iff.1 hname))
  rw [List.flatMap_map] at hperm
  rw [List.filter_flatMap, List.map_flatMap]
  refine (List.Perm.of_eq (List.flatMap_congr fun name hname => ?_)).trans hperm
  obtain ⟨info, id, hinfo, hid, hlisting⟩ := h.listing_eq hname
  have hdirection := filter_zip (h.tells hinfo hid) (p := (·.direction == direction))
    fun l e htells => congrArg (· == direction) htells.direction_eq
  rw [hlisting, hdirection, hedges id]
  refine List.filter_congr fun e _ => decide_eq_decide.2 ?_
  rw [← h.idOf?_eq_some_iff, hid, Option.some.injEq]
  exact eq_comm

/-- After any events, the side panel and the edges agree. For every table, the lines whose other end is a
table go along with the edges at the table's group, in their order, and tell of them: of the target of an edge
that starts there, and of the source of the others. A relationship of the table with itself has one edge and
one line, which leads back to the table. Over all tables, every edge is listed once as outgoing and, if its
ends differ, once as incoming. -/
theorem lines_match_edges (config : Config) (entropy : Entropy) (es : List Event) :
    let s := (new config entropy).run es
    let listed := s.document.tableNames.flatMap s.listing
    (∀ name ∈ s.document.tableNames, ∃ info id,
      s.document.describe? name = some info ∧ s.arena.idOf? name = some id ∧
      s.listing name = (shownLines s.document info).zip (s.edgesAt id) ∧
      List.Forall₂ (Tells s id) (shownLines s.document info) (s.edgesAt id) ∧
      ∀ k r, s.document.relationships[k]? = some r → r.fromTable = name → r.toTable = name →
        ∃ e, s.edges.filter (·.relationship == k) = [e] ∧ e.source = id ∧ e.target = id ∧
          (s.listing name).filter (·.2.relationship == k) = [(⟨.outgoing, name, r.toField⟩, e)]) ∧
    (s.edges.map Edge.relationship).Nodup ∧
    ((listed.filter (·.1.direction == .outgoing)).map Prod.snd).Perm s.edges ∧
    ((listed.filter (·.1.direction == .incoming)).map Prod.snd).Perm (s.edges.filter fun e => e.source != e.target) := by
  intro s listed
  have h : Coherent s := coherent_run (coherent_new config entropy) es
  refine ⟨fun name hname => ?_, h.nodup_relationship, ?_, ?_⟩
  · obtain ⟨info, id, hinfo, hid, hlisting⟩ := h.listing_eq hname
    refine ⟨info, id, hinfo, hid, hlisting, h.tells hinfo hid, fun k r hr hfrom hto => ?_⟩
    rw [hlisting]
    exact h.self_reference hinfo hid hr hfrom hto
  · refine h.listed_perm Edge.source (fun e he => (h.ends he).1) fun id => ?_
    rw [edgesAt, List.filter_filter]
    refine List.filter_congr fun e _ => ?_
    by_cases hs : e.source = id <;> simp [hs]
  · refine h.listed_perm Edge.target (fun e he => (h.ends (List.mem_filter.1 he).1).2) fun id => ?_
    rw [edgesAt, List.filter_filter, List.filter_filter]
    refine List.filter_congr fun e _ => ?_
    by_cases hs : e.source = id
    · by_cases ht : e.target = id <;> simp [hs, ht]
    · by_cases ht : e.target = id <;> simp [hs, ht]

/-- A table that refers to itself and that another one refers to twice; the reference to a missing table has
neither a line nor an edge. -/
theorem lines_match_edges_boss :
    let users : Table := ⟨[⟨"id", "INT", true⟩, ⟨"boss", "INT", false⟩], []⟩
    let shop : Document := ⟨⟨[("orders", {}), ("users", users)], by decide⟩,
      [⟨"users", "boss", "users", "id"⟩, ⟨"orders", "item", "items", "id"⟩, ⟨"orders", "user", "users", "id"⟩,
        ⟨"orders", "user", "users", "id"⟩], 1⟩
    let s := (new { particleCount := 0 } (.ofSeed 7)).run [.build shop, .selectTable "users", .relayout]
    ∃ info, s.document.describe? "users" = some info ∧
      shownLines s.document info =
        [⟨.outgoing, "users", "id"⟩, ⟨.incoming, "orders", "user"⟩, ⟨.incoming, "orders", "user"⟩] ∧
      List.Forall₂ (Tells s 1) (shownLines s.document info) (s.edgesAt 1) ∧
      ∃ e, (s.listing "users").filter (·.2.relationship == 0) = [(⟨.outgoing, "users", "id"⟩, e)] := by
  intro users shop s
  obtain ⟨htables, -⟩ :=
    lines_match_edges { particleCount := 0 } (.ofSeed 7) [.build shop, .selectTable "users", .relayout]
  have hdocument : s.document = shop := by decide +kernel
  have hname : "users" ∈ s.document.tableNames := by rw [hdocument]; decide +kernel
  have hself : s.document.relationships[0]? = some ⟨"users", "boss", "users", "id"⟩ := by rw [hdocument]; rfl
  have hid : s.arena.idOf? "users" = some 1 := by decide +kernel
  obtain ⟨info, id, hinfo, hid', -, htells, hone⟩ := htables "users" hname
  obtain rfl : id = 1 := Option.some.inj (hid'.symm.trans hid)
  obtain ⟨e, -, -, -, hlisted⟩ := hone 0 _ hself rfl rfl
  refine ⟨info, hinfo, ?_, htells, e, hlisted⟩
  rw [hdocument] at hinfo ⊢
  have hlines : (shop.describe? "users").map (shownLines shop) =
      some [⟨.outgoing, "users", "id"⟩, ⟨.incoming, "orders", "user"⟩, ⟨.incoming, "orders", "user"⟩] := by
    decide +kernel
  rw [hinfo] at hlines
  exact Option.some.inj hlines

end SchemaAtlas.Scene
