import SchemaAtlas.Proofs.Dump.Declarations
import SchemaAtlas.Proofs.Text.Letter
/-!
# The definitions of a body

A body is cut into `definitions`, and each of them is read on its own (`clauses_eq`). What a
definition gives is found by one of three readers (`read_cases`), which never read a blank in a
column's name (`blank_not_mem_of_read`) nor a comma in the name of a primary column
(`comma_not_mem_of_read`).
-/

namespace SchemaAtlas.Dump

open Text

/-! ## Blanks in a scan -/

/-- Quotations start with one of the quote characters. -/
def Scan.Proper (s : Scan) : Prop := ∀ q, s.quote = some q → isQuote q = true

theorem Scan.Proper.step {s : Scan} (h : s.Proper) (c : Char) : (s.step c).Proper := by
  unfold Scan.step
  split
  · next q hq =>
    split
    · intro q' hq'; cases hq'
    · exact h
  · split
    · next hc => rintro q ⟨rfl⟩; exact hc
    · split
      · exact h
      · split
        · exact h
        · exact h

theorem isQuote_blank {c : Char} (hc : isBlank c = true) : isQuote c = false := by
  simp [isQuote, ne_of_isBlank hc (x := '\'') rfl, ne_of_isBlank hc (x := '"') rfl, ne_of_isBlank hc (x := '`') rfl]

theorem Scan.Proper.step_blank {s : Scan} (h : s.Proper) {c : Char} (hc : isBlank c = true) : s.step c = s := by
  have hquote := isQuote_blank hc
  unfold Scan.step
  split
  · next q hq =>
    have : c ≠ q := by
      rintro rfl
      rw [h c hq] at hquote
      cases hquote
    rw [if_neg this]
  · simp [hquote, ne_of_isBlank hc (x := '(') rfl, ne_of_isBlank hc (x := ')') rfl]

theorem Scan.Proper.run {s : Scan} (h : s.Proper) (cs : List Char) : (s.run cs).Proper := by
  induction cs generalizing s with
  | nil => exact h
  | cons c cs ih => exact ih (h.step c)

theorem Scan.Proper.run_blanks {s : Scan} (h : s.Proper) {cs : List Char} (hcs : cs.all isBlank = true) :
    s.run cs = s := by
  induction cs with
  | nil => rfl
  | cons c cs ih =>
    rw [List.all_cons, Bool.and_eq_true] at hcs
    rw [Scan.run_cons, h.step_blank hcs.1, ih hcs.2]

theorem Scan.proper_outside (n : Int) : Scan.Proper { depth := n } := by
  rintro q ⟨⟩

theorem Scan.outer_subset (s : Scan) (cs : List Char) : s.outer cs ⊆ cs := by
  intro x hx
  obtain ⟨a, b, rfl, -⟩ := Scan.mem_outer_iff.1 hx
  exact List.mem_append_right a List.mem_cons_self

/-! ## Definitions between commas -/

/-- Texts without the blanks around them, empty ones left out. -/
def visible (ds : List (List Char)) : List (List Char) := (ds.map trimChars).filter (!·.isEmpty)

/-- The definitions of a body: its pieces, trimmed, empty ones left out. -/
def definitions (body : List Char) : List (List Char) := visible (pieces {} body)

/-- A body is read definition by definition. -/
theorem clauses_eq (body : List Char) : clauses body = (definitions body).map Clause.read := rfl

theorem visible_append (ds es : List (List Char)) : visible (ds ++ es) = visible ds ++ visible es := by
  simp [visible]

theorem visible_cons {d : List Char} (h : trimChars d ≠ []) (ds : List (List Char)) :
    visible (d :: ds) = trimChars d :: visible ds := by
  have hkeep : (!(trimChars d).isEmpty) = true := by simpa using h
  rw [visible, List.map_cons, List.filter_cons, if_pos hkeep]
  rfl

theorem mem_visible {ds : List (List Char)} {d : List Char} (hd : d ∈ ds) (hne : trimChars d ≠ []) :
    trimChars d ∈ visible ds :=
  List.mem_filter.2 ⟨List.mem_map_of_mem hd, by simpa using hne⟩

theorem pieces_ne_nil (s : Scan) (cs : List Char) : pieces s cs ≠ [] := by
  cases cs with
  | nil => simp [pieces]
  | cons c cs =>
    rw [pieces]
    split
    · simp
    · cases pieces (s.step c) cs <;> simp [extendHead]

variable {ds : List (List Char)} {cs : List Char}

theorem pieces_intercalate (hne : ds ≠ []) (h : ∀ d ∈ ds, Scan.Solid 0 d) :
    pieces {} ([','].intercalate ds) = ds := by
  induction ds with
  | nil => exact absurd rfl hne
  | cons d ds ih =>
    have hd := h d List.mem_cons_self
    cases ds with
    | nil =>
      have hcut := pieces_append hd.comma []
      rw [List.append_nil, hd.run_eq] at hcut
      rw [List.intercalate_singleton, hcut]
      exact (extendFirst_cons d [] []).trans (by rw [List.append_nil])
    | cons e ds =>
      have hcut : pieces {} (',' :: [','].intercalate (e :: ds)) = [] :: pieces {} ([','].intercalate (e :: ds)) := rfl
      rw [List.intercalate_cons_cons, List.append_assoc, List.singleton_append, pieces_append hd.comma, hd.run_eq,
        hcut, extendFirst_cons, List.append_nil,
        ih (List.cons_ne_nil _ _) fun x hx => h x (List.mem_cons_of_mem _ hx)]

/-- The definitions of a body are those that stand between its commas. -/
theorem definitions_intercalate (h : ∀ d ∈ ds, Scan.Solid 0 d) : definitions ([','].intercalate ds) = visible ds := by
  cases ds with
  | nil => rfl
  | cons d ds => rw [definitions, pieces_intercalate (List.cons_ne_nil _ _) h]

/-! ## What is read as a name -/

theorem eatRun_run {p : Char → Bool} {run rest : List Char} (h : eatRun p cs = some (run, rest)) :
    ∀ c ∈ run, p c = true := by
  unfold eatRun at h
  split at h
  · cases h
  · next hrun =>
    cases h
    intro c hc
    exact List.all_eq_true.1 List.all_takeWhile c hc

/-- The name of a column that is read holds no blank. -/
theorem column?_name {f : Field} (h : column? cs = some f) : ∀ c ∈ f.name.toList, isBlank c = false := by
  simp only [column?, Option.bind_eq_bind, Option.bind_eq_some_iff, Prod.exists] at h
  obtain ⟨name, r, hrun, type, -, h⟩ := h
  split at h
  · cases h
  · cases h
    intro c hc
    rw [String.toList_ofList] at hc
    have hp := eatRun_run hrun c hc
    simp only [Bool.and_eq_true, Bool.not_eq_true'] at hp
    exact hp.2

theorem commaParts_ne_nil (cs : List Char) : commaParts cs ≠ [] := by
  cases cs with
  | nil => simp [commaParts]
  | cons c cs =>
    rw [commaParts]
    split
    · simp
    · split <;> simp

theorem commaParts_cons (c : Char) (cs : List Char) :
    commaParts (c :: cs) = if c = ',' then [] :: commaParts cs else extendHead c (commaParts cs) := by
  rw [commaParts]
  cases commaParts cs <;> rfl

theorem comma_not_mem_commaParts (cs : List Char) : ∀ part ∈ commaParts cs, ',' ∉ part := by
  induction cs with
  | nil => simp [commaParts]
  | cons c cs ih =>
    rw [commaParts]
    split
    · intro part hp
      rcases List.mem_cons.1 hp with rfl | hp
      · exact List.not_mem_nil
      · exact ih part hp
    · next hc =>
      split
      · simpa using Ne.symm hc
      · next p ps hps =>
        rw [hps] at ih
        intro part hp
        rcases List.mem_cons.1 hp with rfl | hp
        · rw [List.mem_cons, not_or]
          exact ⟨Ne.symm hc, ih p List.mem_cons_self⟩
        · exact ih part (List.mem_cons_of_mem _ hp)

theorem stripBoth_subset (p : Char → Bool) (cs : List Char) : stripBoth p cs ⊆ cs := by
  intro c hc
  rw [stripBoth, List.mem_reverse] at hc
  have := (List.dropWhile_sublist p).subset hc
  rw [List.mem_reverse] at this
  exact (List.dropWhile_sublist p).subset this

/-- The names in the list of a primary key. -/
def listedNames (list : List Char) : List String :=
  (commaParts list).map fun c => String.ofList (stripBoth (· == '`') (trimChars c))

theorem beforeLastParen_append {x y : List Char} (hy : ')' ∉ y) : beforeLastParen (x ++ y) = beforeLastParen x := by
  have hdrop : (y.reverse ++ x.reverse).dropWhile (· != ')') = x.reverse.dropWhile (· != ')') :=
    List.dropWhile_append_of_pos fun c hc => bne_iff_ne.2 fun e => hy (e ▸ List.mem_reverse.1 hc)
  rw [beforeLastParen, beforeLastParen, List.reverse_append, hdrop]

theorem comma_not_mem_primaryKeyHere? {names : List String} (h : primaryKeyHere? cs = some names) :
    ∀ n ∈ names, ',' ∉ n.toList := by
  simp only [primaryKeyHere?, Option.bind_eq_bind, Option.bind_eq_some_iff, Option.pure_def, Option.some.injEq] at h
  obtain ⟨_, -, _, -, _, -, columns, -, rfl⟩ := h
  intro n hn
  obtain ⟨part, hp, rfl⟩ := List.mem_map.1 hn
  rw [String.toList_ofList]
  exact fun hm => comma_not_mem_commaParts columns part hp (stripBoth_subset _ _ (stripBoth_subset _ _ hm))

/-- A primary key lists no name with a comma in it. -/
theorem comma_not_mem_primaryKey? {names : List String} (h : primaryKey? cs = some names) :
    ∀ n ∈ names, ',' ∉ n.toList := by
  unfold primaryKey? at h
  split at h
  · exact comma_not_mem_primaryKeyHere? h
  · rcases Option.or_eq_some_iff.1 h with h | ⟨-, h⟩
    · obtain ⟨_, -, h⟩ := Option.bind_eq_some_iff.1 h
      exact comma_not_mem_primaryKeyHere? h
    · obtain ⟨_, -, h⟩ := Option.bind_eq_some_iff.1 h
      exact comma_not_mem_primaryKeyHere? h

theorem read_of_isColumn (h : isColumn (upperChars cs) = true) :
    Clause.read cs = ((column? cs).map Clause.column).getD .other := by
  rw [Clause.read, if_pos h]

theorem read_of_foreign (h : isColumn (upperChars cs) = false) (hf : occursIn "FOREIGN KEY".toList (upperChars cs) = true) :
    Clause.read cs = ((foreignKey? cs).map Clause.foreignKey).getD .other := by
  rw [Clause.read, if_neg (Bool.eq_false_iff.1 h), if_pos hf]

theorem read_of_not_foreign (h : isColumn (upperChars cs) = false)
    (hf : occursIn "FOREIGN KEY".toList (upperChars cs) = false) :
    Clause.read cs = ((primaryKey? cs).map Clause.primaryKey).getD .other := by
  rw [Clause.read, if_neg (Bool.eq_false_iff.1 h), if_neg (Bool.eq_false_iff.1 hf)]

/-- A clause is read by one of three readers, or declares nothing. -/
theorem read_cases (cs : List Char) :
    (∃ f, column? cs = some f ∧ Clause.read cs = .column f) ∨
    (∃ k, foreignKey? cs = some k ∧ Clause.read cs = .foreignKey k) ∨
    (∃ names, primaryKey? cs = some names ∧ Clause.read cs = .primaryKey names) ∨
    Clause.read cs = .other := by
  cases h : isColumn (upperChars cs) with
  | true =>
    rw [read_of_isColumn h]
    cases column? cs with
    | none => exact .inr (.inr (.inr rfl))
    | some f => exact .inl ⟨f, rfl, rfl⟩
  | false =>
    cases hf : occursIn "FOREIGN KEY".toList (upperChars cs) with
    | true =>
      rw [read_of_foreign h hf]
      cases foreignKey? cs with
      | none => exact .inr (.inr (.inr rfl))
      | some k => exact .inr (.inl ⟨k, rfl, rfl⟩)
    | false =>
      rw [read_of_not_foreign h hf]
      cases primaryKey? cs with
      | none => exact .inr (.inr (.inr rfl))
      | some names => exact .inr (.inr (.inl ⟨names, rfl, rfl⟩))

/-- The name of a column that a clause declares holds no blank. -/
theorem blank_not_mem_of_read {f : Field} (h : Clause.read cs = .column f) : ∀ c ∈ f.name.toList, isBlank c = false := by
  rcases read_cases cs with ⟨g, hg, hr⟩ | ⟨k, -, hr⟩ | ⟨names, -, hr⟩ | hr <;> rw [h] at hr <;> cases hr
  exact column?_name hg

/-- The columns that a clause lists as the primary key have no comma in their names. -/
theorem comma_not_mem_of_read {names : List String} (h : Clause.read cs = .primaryKey names) :
    ∀ n ∈ names, ',' ∉ n.toList := by
  rcases read_cases cs with ⟨g, -, hr⟩ | ⟨k, -, hr⟩ | ⟨names, hn, hr⟩ | hr <;> rw [h] at hr <;> cases hr
  exact comma_not_mem_primaryKey? hn

/-! ## Columns and keys of a statement -/

theorem mem_columns {s : Statement} {f : Field} : f ∈ s.columns ↔ Clause.column f ∈ s.clauses := by
  simp only [Statement.columns, List.mem_filterMap]
  constructor
  · rintro ⟨c, hc, hf⟩
    split at hf
    · cases hf; exact hc
    · cases hf
  · exact fun h => ⟨_, h, rfl⟩

theorem mem_primaryColumns {s : Statement} {n : String} :
    n ∈ s.primaryColumns ↔ ∃ names, Clause.primaryKey names ∈ s.clauses ∧ n ∈ names := by
  simp only [Statement.primaryColumns, List.mem_flatMap]
  constructor
  · rintro ⟨c, hc, hn⟩
    split at hn
    · exact ⟨_, hc, hn⟩
    · cases hn
  · rintro ⟨names, h, hn⟩
    exact ⟨_, h, hn⟩

end SchemaAtlas.Dump
