import SchemaAtlas.Proofs.Service.Saving
/-!
# Lines of the traffic log

A request that gets as far as the document leaves an entry in the log, with the names that it is about
(`entryOf?`, `log_perform`). The entry is one line as long as none of these names has a line end in it
(`unbroken_entry`), and nothing keeps a client from sending one that has. `logs_one_line_iff` says
exactly which requests leave one line, and `names_break_lines` shows some that do not.
-/

namespace SchemaAtlas

/-! ## Texts without line ends -/

/-- A text without a line end. -/
def Unbroken (s : String) : Prop := '\n' ∉ s.toList

instance (s : String) : Decidable (Unbroken s) := inferInstanceAs (Decidable ('\n' ∉ s.toList))

theorem unbroken_append {s t : String} : Unbroken (s ++ t) ↔ Unbroken s ∧ Unbroken t := by
  simp [Unbroken, not_or]

theorem unbroken_natural (n : Nat) : Unbroken (toString n) := by
  intro h
  have hdigit : ('\n').isDigit = true :=
    Nat.isDigit_of_mem_toDigits (b := 10) (n := n) (by decide) (by decide) (by simpa using h)
  exact absurd hdigit (by decide)

/-- A text that ends with a line end and has no other. -/
def IsLine (s : String) : Prop := ∃ cs, s.toList = cs ++ ['\n'] ∧ '\n' ∉ cs

theorem isLine_append {s : String} : IsLine (s ++ "\n") ↔ Unbroken s := by
  constructor
  · rintro ⟨cs, hcs, hno⟩
    rw [String.toList_append] at hcs
    rwa [Unbroken, (List.append_inj_left' hcs rfl)]
  · exact fun h => ⟨s.toList, String.toList_append, h⟩

/-! ## Names in messages -/

/-- The names in the description of a flaw. -/
def Flaw.names : Flaw → List String
  | .noTableName => []
  | .unnamedField _ => []
  | .duplicateField name => [name]

/-- The names in an error's message. -/
def UpdateError.names : UpdateError → List String
  | .unknownTable name => [name]
  | .revisionConflict _ _ => []
  | .nameTaken name => [name]
  | .invalid flaw => flaw.names

theorem Flaw.unbroken_message (f : Flaw) : Unbroken f.message ↔ ∀ name ∈ f.names, Unbroken name := by
  cases f with
  | noTableName => exact iff_of_true (show Unbroken "table name is empty" by decide) (by simp [names])
  | unnamedField n =>
    have hmessage : Unbroken ("field #" ++ toString n ++ " has no name") :=
      unbroken_append.2 ⟨unbroken_append.2 ⟨by decide, unbroken_natural n⟩, by decide⟩
    exact iff_of_true hmessage (by simp [names])
  | duplicateField name =>
    have hfixed : Unbroken "duplicate field name " := by decide
    rw [names, List.forall_mem_singleton]
    exact unbroken_append.trans (and_iff_right hfixed)

theorem UpdateError.unbroken_message (e : UpdateError) : Unbroken e.message ↔ ∀ name ∈ e.names, Unbroken name := by
  cases e with
  | unknownTable name =>
    have hfixed : Unbroken "table not found: " := by decide
    rw [names, List.forall_mem_singleton]
    exact unbroken_append.trans (and_iff_right hfixed)
  | revisionConflict expected found =>
    have hmessage : Unbroken ("schema changed since it was loaded (expected revision " ++ toString expected.toNat ++
        ", found " ++ toString found.toNat ++ ")") := by
      simp only [unbroken_append, unbroken_natural, and_true]
      decide
    exact iff_of_true hmessage (by simp [names])
  | nameTaken name =>
    have hfixed : Unbroken "a table named " ∧ Unbroken " already exists" := by decide
    rw [names, List.forall_mem_singleton]
    change Unbroken ("a table named " ++ name ++ " already exists") ↔ _
    simp only [unbroken_append, hfixed, true_and, and_true]
  | invalid flaw =>
    have hfixed : Unbroken "invalid table: " := by decide
    exact (unbroken_append.trans (and_iff_right hfixed)).trans flaw.unbroken_message

namespace Service

open Web

/-! ## Entries -/

variable {s : Service} {d : Document} {a : Arrival} {r : Request}

/-- What a task leaves in the log; nothing if it gets no answer. -/
def entryOf? (a : Arrival) (d : Document) : Task → Option String
  | .getSchema => some s!"GET /api/schema from {a.peer} {sizes d}"
  | .getTable name =>
    match d.table? name with
    | some _ => some s!"GET /api/table/{name} from {a.peer} OK"
    | none => some s!"GET /api/table/{name} from {a.peer} NOT FOUND"
  | .putTable name u =>
    match d.applyUpdate name u with
    | .accepted next => some s!"PUT /api/table/{name} -> {u.name} OK rev={next.revision.toNat}"
    | .refused e => some s!"PUT /api/table/{name} ERR {e.message}"
    | .exhausted _ => none

/-- The names in that entry: all of it that the client chooses. -/
def loggedNames (d : Document) : Task → List String
  | .getSchema => []
  | .getTable name => [name]
  | .putTable name u =>
    name :: match d.applyUpdate name u with
      | .accepted _ => [u.name]
      | .refused e => e.names
      | .exhausted _ => []

/-- A task that is answered leaves its entry, and one that is not leaves nothing. -/
theorem log_perform (s : Service) (a : Arrival) (d : Document) (t : Task) :
    (s.perform a d t).2.log = s.log ++ ((entryOf? a d t).map (logLine a)).getD "" ∧
      ((s.perform a d t).1 = none ↔ entryOf? a d t = none) := by
  cases t with
  | getSchema => exact ⟨rfl, by simp [perform, getSchema, entryOf?]⟩
  | getTable name =>
    simp only [perform, getTable, entryOf?]
    cases d.table? name with
    | some t => exact ⟨rfl, by simp⟩
    | none => exact ⟨rfl, by simp⟩
  | putTable name u =>
    simp only [perform, putTable, entryOf?]
    cases d.applyUpdate name u with
    | accepted next => exact ⟨rfl, by simp⟩
    | refused e => exact ⟨rfl, by simp⟩
    | exhausted e => exact ⟨(String.append_empty).symm, by simp⟩

/-- An entry has a line end exactly if one of its names has. -/
theorem unbroken_entry {t : Task} {entry : String} (hpeer : Unbroken a.peer) (h : entryOf? a d t = some entry) :
    Unbroken entry ↔ ∀ name ∈ loggedNames d t, Unbroken name := by
  cases t with
  | getSchema =>
    obtain rfl := Option.some.inj h
    have hsizes : Unbroken (sizes d) := by
      change Unbroken ("tables=" ++ toString d.tables.size ++ " rels=" ++ toString d.relationships.length ++
        " rev=" ++ toString d.revision.toNat)
      simp only [unbroken_append, unbroken_natural, and_true]
      decide
    have hentry : Unbroken ("GET /api/schema from " ++ a.peer ++ " " ++ sizes d) := by
      simp only [unbroken_append, hpeer, hsizes, and_true]
      decide
    exact iff_of_true hentry (by simp [loggedNames])
  | getTable name =>
    have hfixed : Unbroken "GET /api/table/" ∧ Unbroken " from " := by decide
    have hends : ∀ ending, Unbroken ending →
        (Unbroken ("GET /api/table/" ++ name ++ " from " ++ a.peer ++ ending) ↔ Unbroken name) := by
      intro ending hending
      simp only [unbroken_append, hfixed, hpeer, hending, true_and, and_true]
    simp only [entryOf?] at h
    rw [loggedNames, List.forall_mem_singleton]
    split at h <;> obtain rfl := Option.some.inj h
    · exact hends " OK" (by decide)
    · exact hends " NOT FOUND" (by decide)
  | putTable name u =>
    have hstart : Unbroken "PUT /api/table/" := by decide
    simp only [entryOf?] at h
    rw [loggedNames, List.forall_mem_cons]
    split at h
    · next next _ =>
      obtain rfl := Option.some.inj h
      have hfixed : Unbroken " -> " ∧ Unbroken " OK rev=" := by decide
      rw [List.forall_mem_singleton]
      change Unbroken ("PUT /api/table/" ++ name ++ " -> " ++ u.name ++ " OK rev=" ++ toString next.revision.toNat) ↔ _
      simp only [unbroken_append, hstart, hfixed, unbroken_natural, true_and, and_true]
    · next e _ =>
      obtain rfl := Option.some.inj h
      have hfixed : Unbroken " ERR " := by decide
      rw [← e.unbroken_message]
      change Unbroken ("PUT /api/table/" ++ name ++ " ERR " ++ e.message) ↔ _
      simp only [unbroken_append, hstart, hfixed, true_and, and_true]
    · cases h

/-- A request that is let through to the document. What it appends to the log is exactly one line, with
a single line end behind it, if it is answered and no name in the entry has a line end in it, and
not otherwise. The names are the table's name in the path, the new name in an accepted update and the
name that a refusal quotes. -/
theorem logs_one_line_iff {t : Task} (hs : s.store = some d) (ht : task r = .ok t)
    (hk : s.authorizes r = true) (ha : Unbroken a.time ∧ Unbroken a.id ∧ Unbroken a.peer) :
    ∃ text, (s.handle a r).2.log = s.log ++ text ∧
      (IsLine text ↔ (s.handle a r).1 ≠ none ∧ ∀ name ∈ loggedNames d t, Unbroken name) := by
  rw [handle_of_task hs a ht hk]
  obtain ⟨hlog, hanswer⟩ := log_perform s a d t
  refine ⟨_, hlog, ?_⟩
  rw [Ne, hanswer]
  cases hentry : entryOf? a d t with
  | none =>
    refine iff_of_false ?_ (by simp)
    rintro ⟨cs, hcs, -⟩
    simp at hcs
  | some entry =>
    have hfixed : Unbroken " | RID=" ∧ Unbroken " " := by decide
    change IsLine (a.time ++ " | RID=" ++ a.id ++ " " ++ entry ++ "\n") ↔ _
    rw [isLine_append]
    simp only [unbroken_append, ha, hfixed, true_and, unbroken_entry ha.2.2 hentry]
    simp

/-- A refused update whose fields have the same name, with the blanks that a client may send. -/
theorem logs_one_line_iff_duplicate :
    let u : TableUpdate := ⟨"user accounts", [⟨"id", "INT", true⟩, ⟨"\tid\n", "TEXT", false⟩], 0, []⟩
    let start : Document := ⟨.ofList [("users", ⟨[⟨"id", "INT", true⟩], []⟩)], [], 0⟩
    let save : Request :=
      { method := .put, target := "/api/table/users", contentType := some "application/json"
        body := u.toJson.compact }
    let noon : Arrival := ⟨"12:00", "7", "unknown"⟩
    let s : Service := { store := some start }
    task save = .ok (.putTable "users" u) ∧ s.authorizes save = true ∧
      (Unbroken noon.time ∧ Unbroken noon.id ∧ Unbroken noon.peer) ∧
      loggedNames start (.putTable "users" u) = ["users", "id"] ∧
      ∃ text, (s.handle noon save).2.log = s.log ++ text ∧ IsLine text := by
  intro u start save noon s
  have hsave : IsSave save "users" u := ⟨rfl, by decide +kernel, by decide +kernel, rfl⟩
  have hnoon : Unbroken noon.time ∧ Unbroken noon.id ∧ Unbroken noon.peer := by decide
  have hnames : loggedNames start (.putTable "users" u) = ["users", "id"] := by decide +kernel
  have hanswer : (s.handle noon save).1 ≠ none := by
    rw [handle_of_task (d := start) rfl noon (task_of_isSave hsave) rfl]
    decide +kernel
  obtain ⟨text, hlog, hline⟩ := logs_one_line_iff (s := s) (d := start) rfl (task_of_isSave hsave) rfl hnoon
  refine ⟨task_of_isSave hsave, rfl, hnoon, hnames, text, hlog, hline.2 ⟨hanswer, ?_⟩⟩
  rw [hnames]
  decide

/-- A line end in the path, escaped, and one in the new name of a table, which is accepted: each time
the log has two lines more, and the second one can look like the line of another request. -/
theorem names_break_lines :
    let u : TableUpdate := ⟨"people\n12:01 | RID=8 GET /api/schema", [⟨"id", "INT", true⟩], 0, []⟩
    let start : Document := ⟨.ofList [("users", ⟨[⟨"id", "INT", true⟩], []⟩)], [], 0⟩
    let save : Request :=
      { method := .put, target := "/api/table/users", contentType := some "application/json"
        body := u.toJson.compact }
    let look : Request := { method := .get, target := "/api/table/x%0Ay" }
    let noon : Arrival := ⟨"12:00", "7", "unknown"⟩
    let s : Service := { store := some start }
    s.authorizes save = true ∧ s.authorizes look = true ∧
      (s.handle noon look).2.log = "12:00 | RID=7 GET /api/table/x\ny from unknown NOT FOUND\n" ∧
      ¬ IsLine (s.handle noon look).2.log ∧
      (s.handle noon save).2.log =
        "12:00 | RID=7 PUT /api/table/users -> people\n12:01 | RID=8 GET /api/schema OK rev=1\n" ∧
      ¬ IsLine (s.handle noon save).2.log := by
  intro u start save look noon s
  have hsave : IsSave save "users" u := ⟨rfl, by decide +kernel, by decide +kernel, rfl⟩
  have hlook : (s.handle noon look).2.log = "12:00 | RID=7 GET /api/table/x\ny from unknown NOT FOUND" ++ "\n" := by
    decide +kernel
  have hput : (s.handle noon save).2.log =
      "12:00 | RID=7 PUT /api/table/users -> people\n12:01 | RID=8 GET /api/schema OK rev=1" ++ "\n" := by
    rw [handle_of_task (d := start) rfl noon (task_of_isSave hsave) rfl]
    decide +kernel
  refine ⟨rfl, rfl, hlook, ?_, hput, ?_⟩
  · rw [hlook, isLine_append]
    decide
  · rw [hput, isLine_append]
    decide

end Service
end SchemaAtlas
