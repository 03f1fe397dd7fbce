/-!
# Catalogs

A catalog assigns values to names and remembers the order in which the names were
first given. No name occurs twice; that is part of the type. Putting a value under
a name that is already there keeps the name's place.
-/

namespace SchemaAtlas

/-- Values under distinct names, in a fixed order. -/
structure Catalog (α : Type) where
  /-- The names with their values, in order. -/
  entries : List (String × α)
  /-- No name occurs twice. -/
  distinct : (entries.map Prod.fst).Nodup

namespace Catalog

variable {α β : Type}

theorem ext_entries {c d : Catalog α} (h : c.entries = d.entries) : c = d := by
  cases c; cases d; simp_all

instance [DecidableEq α] : DecidableEq (Catalog α) := fun c d =>
  if h : c.entries = d.entries then isTrue (ext_entries h)
  else isFalse fun e => h (e ▸ rfl)

/-- The catalog without names. -/
def empty : Catalog α := ⟨[], List.nodup_nil⟩

instance : Inhabited (Catalog α) := ⟨empty⟩

/-- The names, in order. -/
def names (c : Catalog α) : List String := c.entries.map Prod.fst

/-- How many names there are. -/
def size (c : Catalog α) : Nat := c.entries.length

/-- The value under a name. -/
def get? (c : Catalog α) (name : String) : Option α := c.entries.lookup name

/-- Whether the name is in the catalog. -/
def contains (c : Catalog α) (name : String) : Bool := c.names.contains name

/-- The place of a name, counted from zero. -/
def indexOf? (c : Catalog α) (name : String) : Option Nat := c.names.findIdx? (· == name)

/-! ## Changing the values -/

/-- Applies `f` to every value; names and order stay. -/
def map (f : String → α → β) (c : Catalog α) : Catalog β where
  entries := c.entries.map fun e => (e.1, f e.1 e.2)
  distinct := by
    have h : (c.entries.map fun e => (e.1, f e.1 e.2)).map Prod.fst = c.entries.map Prod.fst := by
      simp [List.map_map, Function.comp_def]
    rw [h]; exact c.distinct

@[simp] theorem names_map (f : String → α → β) (c : Catalog α) : (c.map f).names = c.names := by
  simp [names, map, List.map_map, Function.comp_def]

/-! ## Putting a value under a name -/

/-- The entries with the value of `name` replaced, or added at the end. -/
def putEntries (name : String) (a : α) : List (String × α) → List (String × α)
  | [] => [(name, a)]
  | e :: es => if e.1 = name then (name, a) :: es else e :: putEntries name a es

theorem mem_names_putEntries {name : String} {a : α} {n : String} : ∀ {l : List (String × α)},
    n ∈ (putEntries name a l).map Prod.fst ↔ n = name ∨ n ∈ l.map Prod.fst
  | [] => by simp [putEntries]
  | e :: es => by
    unfold putEntries
    split
    · next h => simp [h]
    · simp only [List.map_cons, List.mem_cons, mem_names_putEntries (l := es)]
      grind

theorem nodup_putEntries (name : String) (a : α) :
    ∀ {es : List (String × α)}, (es.map Prod.fst).Nodup → ((putEntries name a es).map Prod.fst).Nodup
  | [], _ => by simp [putEntries]
  | e :: es, h => by
    unfold putEntries
    simp only [List.map_cons, List.nodup_cons] at h
    split
    · next he => simpa [← he] using h
    · next he =>
      simp only [List.map_cons, List.nodup_cons]
      refine ⟨?_, nodup_putEntries name a h.2⟩
      rw [mem_names_putEntries]
      exact fun hc => hc.elim he h.1

/-- Puts `a` under `name`: a name that is already there keeps its place, a new one
goes to the end. -/
def put (c : Catalog α) (name : String) (a : α) : Catalog α :=
  ⟨putEntries name a c.entries, nodup_putEntries name a c.distinct⟩

/-- The catalog that results from putting the entries one after the other. -/
def ofList (es : List (String × α)) : Catalog α := es.foldl (fun c e => c.put e.1 e.2) empty

/-! ## Giving an entry another name -/

/-- The entries with the one of `old` replaced by `a` under the name `new`. -/
def renameEntries (old new : String) (a : α) (es : List (String × α)) : List (String × α) :=
  es.map fun e => if e.1 = old then (new, a) else e

theorem nodup_renameEntries {old new : String} {a : α} :
    ∀ {es : List (String × α)}, (es.map Prod.fst).Nodup → (new = old ∨ new ∉ es.map Prod.fst) →
      ((renameEntries old new a es).map Prod.fst).Nodup
  | [], _, _ => by simp [renameEntries]
  | e :: es, h, hn => by
    simp only [List.map_cons, List.nodup_cons] at h
    have hn' : new = old ∨ new ∉ es.map Prod.fst :=
      hn.imp id fun hc hm => hc (by simp [hm])
    have ih : ((renameEntries old new a es).map Prod.fst).Nodup := nodup_renameEntries h.2 hn'
    have hmem : ∀ x ∈ (renameEntries old new a es).map Prod.fst, x = new ∨ x ∈ es.map Prod.fst := by
      intro x hx
      simp only [renameEntries, List.map_map, List.mem_map, Function.comp_apply] at hx
      obtain ⟨e', he', rfl⟩ := hx
      split
      · exact .inl rfl
      · exact .inr (List.mem_map_of_mem he')
    show (((if e.1 = old then (new, a) else e) :: renameEntries old new a es).map Prod.fst).Nodup
    simp only [List.map_cons, List.nodup_cons]
    refine ⟨fun hx => ?_, ih⟩
    by_cases heo : e.1 = old
    · simp only [heo, if_true] at hx
      have hold : ∀ x ∈ (renameEntries old new a es), x ∈ es := by
        intro x hx'
        simp only [renameEntries, List.mem_map] at hx'
        obtain ⟨e', he', rfl⟩ := hx'
        have : e'.1 ≠ old := fun hc => h.1 (by rw [heo, ← hc]; exact List.mem_map_of_mem he')
        simpa [this] using he'
      obtain ⟨x, hx1, hx2⟩ := List.mem_map.1 hx
      have hin : new ∈ es.map Prod.fst := hx2 ▸ List.mem_map_of_mem (hold x hx1)
      rcases hn with rfl | hn
      · exact h.1 (heo ▸ hin)
      · exact hn (by simp [hin])
    · simp only [heo, if_false] at hx
      rcases hmem _ hx with he | he
      · rcases hn with rfl | hn
        · exact heo he
        · exact hn (by simp [he])
      · exact h.1 he

/-- Replaces the entry of `old` by `a` under the name `new`, in the same place. The
new name is the old one or not in use. -/
def rename (c : Catalog α) (old new : String) (a : α) (free : new = old ∨ new ∉ c.names) :
    Catalog α :=
  ⟨renameEntries old new a c.entries, nodup_renameEntries c.distinct free⟩

end Catalog
end SchemaAtlas
