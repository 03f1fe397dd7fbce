import SchemaAtlas.Dump.Clause
import SchemaAtlas.Dump.Scan
/-!
# Reading a dump

A dump is read as the list of its table statements, each from a header to the
parenthesis that closes the body; the text in between is not looked at. A statement
whose body is not closed ends the reading. The document is built from the
statements: a table declared again keeps its place and takes the later definition,
and every foreign key gives a relationship.
-/

namespace SchemaAtlas.Dump

open Text

/-- A table statement: the table's name and the clauses of its body. -/
structure Statement where
  name : String
  clauses : List Clause
deriving DecidableEq, Repr

/-! ## From text to statements -/

/-- The clauses of a body: its pieces, trimmed, empty ones left out. -/
def clauses (body : List Char) : List Clause :=
  (((pieces {} body).map trimChars).filter (!·.isEmpty)).map Clause.read

/-- The first statement of a text, and the text after it. -/
def firstStatement? (cs : List Char) : Option (Statement × List Char) := do
  let (name, cs) ← firstHeader? cs
  let (body, cs) ← closingParen {} cs
  return (⟨String.ofList name, clauses body⟩, cs)

theorem length_dropWhile_le (p : Char → Bool) (cs : List Char) :
    (cs.dropWhile p).length ≤ cs.length := (List.dropWhile_sublist p).length_le

theorem length_of_eatBlanks {cs r : List Char} (h : eatBlanks cs = some r) :
    r.length < cs.length := by
  cases cs with
  | nil => simp [eatBlanks] at h
  | cons c cs =>
    simp only [eatBlanks] at h
    split at h
    · cases h
      have := length_dropWhile_le isBlank cs
      simp only [List.length_cons]; omega
    · cases h

theorem length_of_eat {c : Char} {cs r : List Char} (h : eat c cs = some r) :
    r.length < cs.length := by
  cases cs with
  | nil => simp [eat] at h
  | cons x xs =>
    simp only [eat] at h
    split at h
    · cases h; simp
    · cases h

theorem length_of_eatWord {w : List Char} {cs r : List Char} (h : eatWord w cs = some r) :
    r.length ≤ cs.length := by
  induction w generalizing cs with
  | nil => simp_all [eatWord]
  | cons l w ih =>
    cases cs with
    | nil => simp [eatWord] at h
    | cons c cs =>
      simp only [eatWord] at h
      split at h
      · have := ih h; simp only [List.length_cons]; omega
      · cases h

theorem length_of_eatWordBlanks {w : List Char} {cs r : List Char}
    (h : eatWordBlanks w cs = some r) : r.length < cs.length := by
  obtain ⟨m, hm, hr⟩ := Option.bind_eq_some_iff.1 h
  exact Nat.lt_of_lt_of_le (length_of_eatBlanks hr) (length_of_eatWord hm)

theorem length_dropTick_le (cs : List Char) : (dropTick cs).length ≤ cs.length := by
  unfold dropTick; split <;> simp

theorem length_of_eatRun {p : Char → Bool} {cs run r : List Char}
    (h : eatRun p cs = some (run, r)) : r.length ≤ cs.length := by
  unfold eatRun at h
  split at h
  · cases h
  · simp only [Option.some.injEq, Prod.mk.injEq] at h
    exact h.2 ▸ length_dropWhile_le p cs

theorem length_dropIfNotExists_le (cs : List Char) : (dropIfNotExists cs).length ≤ cs.length := by
  unfold dropIfNotExists
  cases h : (eatWordBlanks ['i', 'f'] cs >>= eatWordBlanks ['n', 'o', 't'] >>=
    eatWordBlanks ['e', 'x', 'i', 's', 't', 's']) with
  | none => simp
  | some r =>
    obtain ⟨m, hm, hr⟩ := Option.bind_eq_some_iff.1 h
    obtain ⟨k, hk, hm⟩ := Option.bind_eq_some_iff.1 hm
    have := length_of_eatWordBlanks hk
    have := length_of_eatWordBlanks hm
    have := length_of_eatWordBlanks hr
    simp only [Option.getD_some]; omega

/-- A header leaves less text than there was. -/
theorem length_of_header? {cs name r : List Char} (h : header? cs = some (name, r)) :
    r.length < cs.length := by
  simp only [header?, Option.bind_eq_bind, Option.bind_eq_some_iff, Option.pure_def,
    Option.some.injEq, Prod.mk.injEq, Prod.exists] at h
  obtain ⟨a, ha, b, hb, n, c, hc, d, hd, _, rfl⟩ := h
  have h1 := length_of_eatWordBlanks ha
  have h2 := length_of_eatWordBlanks hb
  have h3 := length_of_eatRun hc
  have h4 := length_of_eat hd
  have h5 := length_dropTick_le (dropIfNotExists b)
  have h6 := length_dropIfNotExists_le b
  have h7 := length_dropTick_le c
  have h8 := length_dropWhile_le isBlank (dropTick c)
  omega

theorem length_of_firstHeader? {cs name r : List Char} (h : firstHeader? cs = some (name, r)) :
    r.length < cs.length := by
  induction cs with
  | nil => simp [firstHeader?] at h
  | cons c cs ih =>
    rw [firstHeader?] at h
    split at h
    · next hh => cases h; exact length_of_header? hh
    · have := ih h; simp only [List.length_cons]; omega

/-- A statement leaves less text than there was. -/
theorem length_of_firstStatement? {cs r : List Char} {s : Statement}
    (h : firstStatement? cs = some (s, r)) : r.length < cs.length := by
  simp only [firstStatement?, Option.bind_eq_bind, Option.bind_eq_some_iff, Option.pure_def,
    Option.some.injEq, Prod.mk.injEq, Prod.exists] at h
  obtain ⟨n, a, ha, b, c, hb, _, rfl⟩ := h
  exact Nat.lt_trans (length_of_closingParen hb) (length_of_firstHeader? ha)

/-- The statements of a text, in order. -/
def statements (cs : List Char) : List Statement :=
  match _h : firstStatement? cs with
  | none => []
  | some (s, rest) => s :: statements rest
termination_by cs.length
decreasing_by exact length_of_firstStatement? _h

/-! ## From statements to a document -/

namespace Statement

/-- The columns a statement declares. -/
def columns (s : Statement) : List Field :=
  s.clauses.filterMap fun
    | .column f => some f
    | _ => none

/-- The foreign keys a statement declares. -/
def foreignKeys (s : Statement) : List ForeignKey :=
  s.clauses.filterMap fun
    | .foreignKey k => some k
    | _ => none

/-- The columns that primary key clauses list. -/
def primaryColumns (s : Statement) : List String :=
  s.clauses.flatMap fun
    | .primaryKey cs => cs
    | _ => []

/-- The declared table. A column is primary when its type says so or a primary key
clause lists it. -/
def table (s : Statement) : Table where
  fields := s.columns.map fun f =>
    { f with isPrimary := f.isPrimary || s.primaryColumns.contains f.name }
  foreignKeys := s.foreignKeys

/-- The relationships that a statement's foreign keys stand for. -/
def relationships (s : Statement) : List Relationship :=
  s.foreignKeys.map (·.relationship s.name)

end Statement

/-- The document that a list of statements declares. -/
def ofStatements (ss : List Statement) : Document where
  tables := .ofList (ss.map fun s => (s.name, s.table))
  relationships := ss.flatMap (·.relationships)
  revision := 0

/-- Reads a dump. -/
def document (sql : String) : Document := ofStatements (statements sql.toList)

end SchemaAtlas.Dump
