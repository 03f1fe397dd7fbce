import Mathlib.Data.List.TakeWhile
import SchemaAtlas.Dump.Printer
import SchemaAtlas.Proofs.Dump.Clauses
/-!
# Names in backticks

A column may have its name in backticks. The scan passes over whatever the name holds, so the
definition stays in one piece (`DefinesColumn.solid`). But the reader of a column ends the name at a
blank, and the list of a primary key is cut at every comma. So a name is read as it stands exactly if
there is no blank in it, and a listed one is found exactly if there is no comma in it
(`ticked_column_iff`).
-/

namespace SchemaAtlas.Dump

open Text

variable {w cs : List Char}

/-! ## The clause of a primary key -/

theorem eatBlanks_gap {gap rest : List Char} (hgap : IsGap gap) (hrest : ∀ c, rest.head? = some c → isBlank c = false) :
    eatBlanks (gap ++ rest) = some rest := by
  cases gap with
  | nil => exact absurd rfl hgap.1
  | cons c gap =>
    have hblank := hgap.2
    rw [List.all_cons, Bool.and_eq_true, List.all_eq_true] at hblank
    rw [List.cons_append, eatBlanks, if_pos hblank.1, List.dropWhile_append_of_pos hblank.2, dropWhile_eq_self hrest]

/-- A word at the front of a text and the blanks after it are read. -/
theorem eatWordBlanks_of_spells {gap rest : List Char} (h : Spells w cs) (hw : w.all Char.isUpper = true)
    (hgap : IsGap gap) (hrest : ∀ c, rest.head? = some c → isBlank c = false) :
    eatWordBlanks (w.map Char.toLower) (cs ++ (gap ++ rest)) = some rest := by
  rw [eatWordBlanks, eatWord_of_spells h hw]
  exact eatBlanks_gap hgap hrest

theorem head_of_spells (h : Spells w cs) (hw : w.all Char.isUpper = true) (hne : w ≠ []) (rest : List Char) :
    ∃ c r, cs ++ rest = c :: r ∧ c.toUpper.isUpper = true ∧ w.head? = some c.toUpper := by
  cases cs with
  | nil => exact absurd h.symm hne
  | cons c cs => exact ⟨c, cs ++ rest, rfl, h.letters hw List.mem_cons_self, by rw [← h]; rfl⟩

theorem not_blank_of_spells (h : Spells w cs) (hw : w.all Char.isUpper = true) (hne : w ≠ []) (rest : List Char) :
    ∀ c, (cs ++ rest).head? = some c → isBlank c = false := by
  obtain ⟨x, r, hx, hupper, -⟩ := head_of_spells h hw hne rest
  intro c hc
  rw [hx] at hc
  cases hc
  exact (letter_of_toUpper hupper).2.2.1

/-- `PRIMARY KEY (list)`, and what may follow: no further parenthesis is closed. -/
def IsKeyText (list cs : List Char) : Prop :=
  ∃ w gap k gap' tail, Spells "PRIMARY".toList w ∧ IsGap gap ∧ Spells "KEY".toList k ∧ gap'.all isBlank = true ∧
    ')' ∉ tail ∧ cs = w ++ (gap ++ (k ++ (gap' ++ '(' :: (list ++ ')' :: tail))))

/-- The name of a constraint: in backticks, or without blanks. -/
def IsSymbol (cs : List Char) : Prop :=
  (∃ s : String, '`' ∉ s.toList ∧ cs = quoted s) ∨ (cs ≠ [] ∧ cs.head? ≠ some '`' ∧ ∀ c ∈ cs, isBlank c = false)

/-- `PRIMARY KEY (list)` or `CONSTRAINT name PRIMARY KEY (list)`, with any blanks between the words. -/
inductive IsKeyClause (list : List Char) : List Char → Prop
  | plain {cs : List Char} (h : IsKeyText list cs) : IsKeyClause list cs
  | named {c gap symbol gap' cs : List Char} (hc : Spells "CONSTRAINT".toList c) (hgap : IsGap gap)
      (hsymbol : IsSymbol symbol) (hgap' : IsGap gap') (h : IsKeyText list cs) :
      IsKeyClause list (c ++ (gap ++ (symbol ++ (gap' ++ cs))))

theorem primaryKeyHere?_of_isKeyText {list : List Char} (h : IsKeyText list cs) (hline : '\n' ∉ list) :
    primaryKeyHere? cs = some (listedNames list) := by
  obtain ⟨w, gap, k, gap', tail, hw, hgap, hk, hgap', htail, rfl⟩ := h
  have hprimary : eatWordBlanks ['p', 'r', 'i', 'm', 'a', 'r', 'y'] (w ++ (gap ++ (k ++ (gap' ++ '(' :: (list ++ ')' :: tail))))) =
      some (k ++ (gap' ++ '(' :: (list ++ ')' :: tail))) :=
    eatWordBlanks_of_spells hw rfl hgap (not_blank_of_spells hk rfl (by decide) _)
  have hkey : eatWord ['k', 'e', 'y'] (k ++ (gap' ++ '(' :: (list ++ ')' :: tail))) = some (gap' ++ '(' :: (list ++ ')' :: tail)) :=
    eatWord_of_spells hk rfl _
  have hopen : (gap' ++ '(' :: (list ++ ')' :: tail)).dropWhile isBlank = '(' :: (list ++ ')' :: tail) := by
    rw [List.dropWhile_append_of_pos (List.all_eq_true.1 hgap')]
    rfl
  have hrow : (list ++ ')' :: tail).takeWhile (· != '\n') = list ++ ')' :: tail.takeWhile (· != '\n') :=
    List.takeWhile_append_of_pos fun c hc => bne_iff_ne.2 fun e => hline (e ▸ hc)
  have hlast : beforeLastParen (list ++ ')' :: tail.takeWhile (· != '\n')) = some list := by
    have hend : beforeLastParen (list ++ [')']) = some list := by simp [beforeLastParen]
    rw [← List.singleton_append, ← List.append_assoc, beforeLastParen_append fun hm => htail (List.takeWhile_subset _ hm), hend]
  simp [primaryKeyHere?, hprimary, hkey, hopen, eat, hrow, hlast, listedNames]

theorem eatTicked_quoted {s : String} {gap rest : List Char} (hs : '`' ∉ s.toList) (hgap : IsGap gap)
    (hrest : ∀ c, rest.head? = some c → isBlank c = false) : eatTicked (quoted s ++ (gap ++ rest)) = some rest := by
  have htext : quoted s ++ (gap ++ rest) = '`' :: (s.toList ++ '`' :: (gap ++ rest)) := by simp [quoted]
  have hdrop : (s.toList ++ '`' :: (gap ++ rest)).dropWhile (· != '`') = '`' :: (gap ++ rest) :=
    List.dropWhile_append_of_pos fun x hx => bne_iff_ne.2 fun e => hs (e ▸ hx)
  simp [eatTicked, htext, eat, hdrop, eatBlanks_gap hgap hrest]

theorem eatPlain_append {symbol gap rest : List Char} (hne : symbol ≠ []) (hs : ∀ c ∈ symbol, isBlank c = false)
    (hgap : IsGap gap) (hrest : ∀ c, rest.head? = some c → isBlank c = false) :
    eatPlain (symbol ++ (gap ++ rest)) = some rest := by
  have hrun : eatRun (!isBlank ·) (symbol ++ (gap ++ rest)) = some (symbol, gap ++ rest) := by
    refine eatRun_append hne (fun c hc => by simp [hs c hc]) fun c hc => ?_
    obtain ⟨x, gap', rfl⟩ := List.exists_cons_of_ne_nil hgap.1
    cases hc
    simp [List.all_eq_true.1 hgap.2 c List.mem_cons_self]
  simp only [eatPlain, hrun, Option.bind_eq_bind, Option.bind_some, eatBlanks_gap hgap hrest]

theorem IsKeyText.head {list : List Char} (h : IsKeyText list cs) :
    ∃ c r, cs = c :: r ∧ c.toUpper = 'P' ∧ isBlank c = false := by
  obtain ⟨w, gap, k, gap', tail, hw, -, -, -, -, rfl⟩ := h
  obtain ⟨c, r, hr, hupper, hhead⟩ := head_of_spells hw rfl (by decide) (gap ++ (k ++ (gap' ++ '(' :: (list ++ ')' :: tail))))
  exact ⟨c, r, hr, (Option.some.inj hhead).symm, (letter_of_toUpper hupper).2.2.1⟩

/-- A primary key clause is read as the names of its list, which stands on one line. -/
theorem primaryKey?_of_isKeyClause {list : List Char} (h : IsKeyClause list cs) (hline : '\n' ∉ list) :
    primaryKey? cs = some (listedNames list) := by
  cases h with
  | plain h =>
    have hhere := primaryKeyHere?_of_isKeyText h hline
    obtain ⟨c, r, rfl, hc, -⟩ := h.head
    have hfold : foldCase c = 'p' := by
      rw [(letter_of_toUpper (by rw [hc]; rfl)).2.1, hc]
      rfl
    have hword : eatWordBlanks ['c', 'o', 'n', 's', 't', 'r', 'a', 'i', 'n', 't'] (c :: r) = none := by
      simp [eatWordBlanks, eatWord, hfold]
    rw [primaryKey?, hword]
    exact hhere
  | @named c gap symbol gap' cs hc hgap hsymbol hgap' h =>
    have hhere := primaryKeyHere?_of_isKeyText h hline
    have hstart : ∀ x, cs.head? = some x → isBlank x = false := by
      obtain ⟨c, r, rfl, -, hblank⟩ := h.head
      rintro x ⟨rfl⟩
      exact hblank
    have hword (hs : ∀ x, (symbol ++ (gap' ++ cs)).head? = some x → isBlank x = false) :
        eatWordBlanks ['c', 'o', 'n', 's', 't', 'r', 'a', 'i', 'n', 't'] (c ++ (gap ++ (symbol ++ (gap' ++ cs)))) =
          some (symbol ++ (gap' ++ cs)) :=
      eatWordBlanks_of_spells hc rfl hgap hs
    rcases hsymbol with ⟨s, hs, rfl⟩ | ⟨hne, htick, hblank⟩
    · rw [primaryKey?, hword (by rintro x ⟨rfl⟩; rfl)]
      simp [eatTicked_quoted hs hgap' hstart, hhere]
    · have hplain := eatPlain_append hne hblank hgap' hstart
      obtain ⟨x, r, rfl⟩ := List.exists_cons_of_ne_nil hne
      have hx : x ≠ '`' := fun e => htick (by rw [e]; rfl)
      have hticked : eatTicked (x :: r ++ (gap' ++ cs)) = none := by simp [eatTicked, eat, hx]
      rw [primaryKey?, hword (by rintro y ⟨rfl⟩; exact hblank _ List.mem_cons_self)]
      simp only [hticked, hplain, Option.bind_eq_bind, Option.bind_none, Option.none_or, Option.bind_some, hhere]

/-- A clause whose first word starts a constraint is no column. -/
theorem isColumn_word {x : Char} {r : List Char} (hw : w.all (fun c => !isBlank c && c != '(') = true)
    (hhead : ∃ c v, w = c :: v ∧ c ≠ '`') (hmem : constraintWords.contains (String.ofList w) = true)
    (hx : isBlank x = true) : isColumn (w ++ x :: r) = false := by
  obtain ⟨c, v, rfl, hc⟩ := hhead
  simp only [List.all_eq_true, Bool.and_eq_true, Bool.not_eq_true'] at hw
  have hdrop : (c :: v ++ x :: r).dropWhile isBlank = c :: v ++ x :: r :=
    dropWhile_eq_self fun y hy => by cases hy; exact (hw c List.mem_cons_self).1
  have hfirst : (c :: v ++ x :: r).takeWhile (!isBlank ·) = c :: v := by
    rw [List.takeWhile_append_of_pos fun y hy => by simp [(hw y hy).1]]
    simp [hx]
  have hword : (c :: v).takeWhile (· != '(') = c :: v := List.takeWhile_eq_self_iff.2 fun y hy => (hw y hy).2
  have htick : ((c :: v ++ x :: r).head? == some '`') = false := by simp [hc]
  rw [isColumn, htick]
  simp only [hdrop, hfirst, hword, hmem]
  rfl

theorem upperChars_gap {gap : List Char} (hgap : IsGap gap) (rest : List Char) :
    ∃ x r, upperChars (gap ++ rest) = x :: r ∧ isBlank x = true := by
  obtain ⟨x, gap, rfl⟩ := List.exists_cons_of_ne_nil hgap.1
  have hx := List.all_eq_true.1 hgap.2 x List.mem_cons_self
  exact ⟨x, upperChars (gap ++ rest), by simp [upperChars, (cases_blank hx).1], hx⟩

theorem isColumn_of_isKeyClause {list : List Char} (h : IsKeyClause list cs) : isColumn (upperChars cs) = false := by
  cases h with
  | plain h =>
    obtain ⟨w, gap, k, gap', tail, hw, hg, -, -, -, rfl⟩ := h
    obtain ⟨x, r, hr, hx⟩ := upperChars_gap hg (k ++ (gap' ++ '(' :: (list ++ ')' :: tail)))
    rw [upperChars_append, upperChars_of_spells hw rfl, hr]
    exact isColumn_word rfl ⟨_, _, rfl, by decide⟩ rfl hx
  | @named c gap symbol gap' cs hc hg _ _ _ =>
    obtain ⟨x, r, hr, hx⟩ := upperChars_gap hg (symbol ++ (gap' ++ cs))
    rw [upperChars_append, upperChars_of_spells hc rfl, hr]
    exact isColumn_word rfl ⟨_, _, rfl, by decide⟩ rfl hx

/-! ## Listed names -/

theorem commaParts_comma (a b : List Char) : commaParts (a ++ ',' :: b) = commaParts a ++ commaParts b := by
  induction a with
  | nil => simp [commaParts]
  | cons c a ih =>
    rw [List.cons_append, commaParts, commaParts, ih]
    split
    · rfl
    · cases h : commaParts a with
      | nil => exact absurd h (commaParts_ne_nil a)
      | cons p ps => rfl

/-- A part without a comma is found among the parts of a list, whatever the others hold. -/
theorem mem_commaParts_intercalate {parts : List (List Char)} {part : List Char} (h : part ∈ parts) (hcomma : ',' ∉ part) :
    part ∈ commaParts ([','].intercalate parts) := by
  induction parts with
  | nil => cases h
  | cons p parts ih =>
    cases parts with
    | nil =>
      obtain rfl : part = p := List.mem_singleton.1 h
      rw [List.intercalate_singleton, commaParts_eq hcomma]
      exact List.mem_singleton_self _
    | cons q parts =>
      rw [List.intercalate_cons_cons, List.append_assoc, List.singleton_append, commaParts_comma, List.mem_append]
      rcases List.mem_cons.1 h with rfl | h
      · exact .inl (by rw [commaParts_eq hcomma]; exact List.mem_singleton_self _)
      · exact .inr (ih h)

/-- A definition that is a primary key clause and lists a name in backticks, perhaps among others. Its list
stands on one line, and it does not speak of a foreign key. -/
def ListsKey (name : String) (d : List Char) : Prop :=
  ∃ parts l r, IsKeyClause ([','].intercalate parts) (trimChars d) ∧ l ++ quoted name ++ r ∈ parts ∧ l.all isBlank = true ∧
    r.all isBlank = true ∧ '\n' ∉ [','].intercalate parts ∧
    occursIn "FOREIGN KEY".toList (upperChars (trimChars d)) = false

theorem mem_listedNames {name : String} {parts : List (List Char)} {l r : List Char} (hpart : l ++ quoted name ++ r ∈ parts)
    (hl : l.all isBlank = true) (hr : r.all isBlank = true) (htick : '`' ∉ name.toList) (hcomma : ',' ∉ name.toList) :
    name ∈ listedNames ([','].intercalate parts) := by
  have hblank : ∀ {cs : List Char}, cs.all isBlank = true → ',' ∉ cs := by
    intro cs hcs hm
    have := List.all_eq_true.1 hcs _ hm
    revert this
    decide
  have hnone : ',' ∉ l ++ quoted name ++ r := by
    simp only [List.mem_append, not_or]
    exact ⟨⟨hblank hl, not_mem_quoted (by decide) hcomma⟩, hblank hr⟩
  refine List.mem_map.2 ⟨_, mem_commaParts_intercalate hpart hnone, ?_⟩
  have hticks : ∀ c ∈ name.toList, (c == '`') = false := fun c hc => by simpa using fun e : c = '`' => htick (e ▸ hc)
  have hname : stripBoth (· == '`') name.toList = name.toList :=
    stripBoth_eq_self_iff.2 ⟨fun c hc => hticks c (List.mem_of_mem_head? hc), fun c hc => hticks c (List.mem_of_mem_getLast? hc)⟩
  rw [trimChars, stripBoth_append hl hr, ← trimChars, trim_quoted, quoted, stripBoth_append rfl rfl, hname,
    String.ofList_toList]

theorem IsKeyClause.ne_nil {list : List Char} (h : IsKeyClause list cs) : cs ≠ [] := by
  cases h with
  | plain h =>
    obtain ⟨c, r, rfl, -⟩ := h.head
    exact List.cons_ne_nil _ _
  | @named c gap symbol gap' cs hc _ _ _ _ =>
    obtain ⟨x, r, hx, -⟩ := head_of_spells hc rfl (by decide) (gap ++ (symbol ++ (gap' ++ cs)))
    rw [hx]
    exact List.cons_ne_nil _ _

/-- A clause that lists a name in backticks declares a primary key with the name, unless there is a comma in it. -/
theorem read_of_listsKey {name : String} {d : List Char} (h : ListsKey name d) (htick : '`' ∉ name.toList)
    (hcomma : ',' ∉ name.toList) : trimChars d ≠ [] ∧ ∃ names, Clause.read (trimChars d) = .primaryKey names ∧ name ∈ names := by
  obtain ⟨parts, l, r, hclause, hpart, hl, hr, hline, hforeign⟩ := h
  refine ⟨hclause.ne_nil, _, ?_, mem_listedNames hpart hl hr htick hcomma⟩
  · rw [read_of_not_foreign (isColumn_of_isKeyClause hclause) hforeign, primaryKey?_of_isKeyClause hclause hline]
    rfl

/-! ## Columns with names in backticks -/

/-- A definition of a column: its name in backticks, blanks and its type, with blanks around it. -/
def DefinesColumn (name type : String) (d : List Char) : Prop :=
  ∃ lead gap trail, d = lead ++ (quoted name ++ (gap ++ type.toList)) ++ trail ∧ lead.all isBlank = true ∧ IsGap gap ∧
    trail.all isBlank = true

/-- A type as it stands behind a column's name: trimmed, with its quotations and parentheses closed and its commas
inside of them. -/
structure IsTypeText (type : String) : Prop where
  nonempty : type.toList ≠ []
  trimmed : trimChars type.toList = type.toList
  solid : Scan.Solid 0 type.toList

/-- A text without quotes, parentheses and commas is solid. -/
theorem solid_of_inert {cs : List Char} (h : ∀ c ∈ cs, isQuote c = false ∧ c ∉ ['(', ')', ',']) (n : Int) :
    Scan.Solid n cs := by
  have hrun : Scan.run { depth := n } cs = { depth := n } := by
    induction cs with
    | nil => rfl
    | cons c cs ih =>
      have hc := h c List.mem_cons_self
      simp only [List.mem_cons, List.not_mem_nil, or_false, not_or] at hc
      have hstep : Scan.step { depth := n } c = { depth := n } := by simp [Scan.step, hc]
      rw [Scan.run_cons, hstep]
      exact ih fun x hx => h x (List.mem_cons_of_mem _ hx)
  refine ⟨hrun, fun hm => ?_, fun hm => ?_⟩
  · exact (h _ (Scan.outer_subset _ _ hm)).2 (by decide)
  · exact (h _ (Scan.outer_subset _ _ hm)).2 (by decide)

theorem solid_blanks {cs : List Char} (h : cs.all isBlank = true) (n : Int) : Scan.Solid n cs := by
  have hmarks : ['(', ')', ','].all (!isBlank ·) = true := rfl
  refine solid_of_inert (fun c hc => ⟨isQuote_blank (List.all_eq_true.1 h c hc), fun hm => ?_⟩) n
  have hmark := List.all_eq_true.1 hmarks c hm
  rw [List.all_eq_true.1 h c hc] at hmark
  cases hmark

variable {name type : String} {d : List Char}

theorem DefinesColumn.solid (h : DefinesColumn name type d) (htick : '`' ∉ name.toList) (htype : IsTypeText type) :
    Scan.Solid 0 d := by
  obtain ⟨lead, gap, trail, rfl, hlead, hgap, htrail⟩ := h
  exact ((solid_blanks hlead 0).append ((Scan.solid_ticked htick 0).append ((solid_blanks hgap.2 0).append htype.solid))).append
    (solid_blanks htrail 0)

theorem trim_definesColumn (h : DefinesColumn name type d) (htype : IsTypeText type) :
    ∃ gap, IsGap gap ∧ trimChars d = quoted name ++ (gap ++ type.toList) := by
  obtain ⟨lead, gap, trail, rfl, hlead, hgap, htrail⟩ := h
  refine ⟨gap, hgap, ?_⟩
  obtain ⟨x, hx⟩ := Option.isSome_iff_exists.1 (List.getLast?_isSome.2 htype.nonempty)
  have hlast : (quoted name ++ (gap ++ type.toList)).getLast? = some x := by
    rw [List.getLast?_append, List.getLast?_append, hx]
    rfl
  rw [trimChars, stripBoth_append hlead htrail]
  exact stripBoth_of_ends rfl hlast rfl ((stripBoth_eq_self_iff.1 htype.trimmed).2 x hx)

theorem DefinesColumn.trim_ne_nil (h : DefinesColumn name type d) (htype : IsTypeText type) : trimChars d ≠ [] := by
  obtain ⟨gap, -, htrim⟩ := trim_definesColumn h htype
  rw [htrim]
  exact List.cons_ne_nil _ _

/-- A column whose name has no blank in it is read with its name and type as they stand. -/
theorem read_definesColumn (h : DefinesColumn name type d) (htype : IsTypeText type) (hname : name.toList ≠ [])
    (htick : '`' ∉ name.toList) (hblank : ∀ c ∈ name.toList, isBlank c = false) :
    Clause.read (trimChars d) = .column ⟨name, type, typeIsPrimary (upperChars type.toList)⟩ := by
  obtain ⟨gap, hgap, htrim⟩ := trim_definesColumn h htype
  have hkind : isColumn (upperChars (trimChars d)) = true := by
    rw [htrim]
    rfl
  have hrun : eatRun (fun c => c != '`' && !isBlank c) (dropTick (quoted name ++ (gap ++ type.toList))) =
      some (name.toList, '`' :: (gap ++ type.toList)) := by
    have htext : dropTick (quoted name ++ (gap ++ type.toList)) = name.toList ++ '`' :: (gap ++ type.toList) := by
      simp [quoted, dropTick]
    rw [htext]
    refine eatRun_append hname (fun c hc => ?_) fun c hc => by cases hc; rfl
    have : c ≠ '`' := fun e => htick (e ▸ hc)
    simp [this, hblank c hc]
  have hgaps : eatBlanks (dropTick ('`' :: (gap ++ type.toList))) = some type.toList :=
    eatBlanks_gap hgap (stripBoth_eq_self_iff.1 htype.trimmed).1
  have hcolumn : column? (trimChars d) = some ⟨name, type, typeIsPrimary (upperChars type.toList)⟩ := by
    simp [column?, htrim, hrun, hgaps, htype.nonempty, htype.trimmed]
  rw [read_of_isColumn hkind, hcolumn]
  rfl

/-! ## Fields of a declared table -/

/-- The clauses that definitions are read as. -/
def readings (ds : List (List Char)) : List Clause := (visible ds).map Clause.read

theorem clauses_intercalate {ds : List (List Char)} (h : ∀ d ∈ ds, Scan.Solid 0 d) :
    clauses ([','].intercalate ds) = readings ds := by
  rw [clauses_eq, definitions_intercalate h, readings]

/-- A clause is read from one of the definitions. -/
theorem exists_of_mem_readings {ds : List (List Char)} {c : Clause} (h : c ∈ readings ds) :
    ∃ d ∈ ds, Clause.read (trimChars d) = c := by
  obtain ⟨p, hp, rfl⟩ := List.mem_map.1 h
  obtain ⟨d, hd, rfl⟩ := List.mem_map.1 (List.mem_of_mem_filter hp)
  exact ⟨d, hd, rfl⟩

theorem name_of_mem_fields {n : String} {ds : List (List Char)} {f : Field} (h : f ∈ (Statement.mk n (readings ds)).table.fields) :
    ∀ c ∈ f.name.toList, isBlank c = false := by
  obtain ⟨g, hg, rfl⟩ := List.mem_map.1 h
  obtain ⟨d, -, hread⟩ := exists_of_mem_readings (mem_columns.1 hg)
  have hname := blank_not_mem_of_read hread
  exact hname

theorem field_at (n : String) (before after : List Clause) (f : Field) :
    (Statement.mk n (before ++ .column f :: after)).table.fields[(Statement.mk n before).columns.length]? =
      some { f with isPrimary := f.isPrimary || (Statement.mk n (before ++ .column f :: after)).primaryColumns.contains f.name } := by
  simp [Statement.table, Statement.columns, List.filterMap_append]

/-- Where a clause lists a name in backticks, the name counts as primary unless there is a comma in it. -/
theorem mem_primaryColumns_iff {n : String} {ds : List (List Char)} (htick : '`' ∉ name.toList)
    (h : ∃ e ∈ ds, ListsKey name e) : name ∈ (Statement.mk n (readings ds)).primaryColumns ↔ ',' ∉ name.toList := by
  rw [mem_primaryColumns]
  constructor
  · rintro ⟨names, hclause, hmem⟩
    obtain ⟨e, -, hread⟩ := exists_of_mem_readings hclause
    exact comma_not_mem_of_read hread name hmem
  · intro hcomma
    obtain ⟨e, he, hlists⟩ := h
    obtain ⟨hne, names, hread, hmem⟩ := read_of_listsKey hlists htick hcomma
    have hclause : Clause.read (trimChars e) ∈ readings ds := List.mem_map_of_mem (mem_visible he hne)
    rw [hread] at hclause
    exact ⟨names, hclause, hmem⟩

theorem split_at {α : Type} {l : List α} {i : Nat} {a : α} (h : l[i]? = some a) : l = l.take i ++ a :: l.drop (i + 1) := by
  obtain ⟨hlt, hget⟩ := List.getElem?_eq_some_iff.1 h
  rw [← hget, List.getElem_cons_drop, List.take_append_drop]

/-- The last declaration of a table is the one that a document has. -/
theorem table?_last {sql : String} {i : Nat} {n : String} {t : Table} (h : (declared sql)[i]? = some (n, t))
    (hlast : ∀ e ∈ (declared sql).drop (i + 1), e.1 ≠ n) : (document sql).table? n = some t := by
  rw [Document.table?, tables_document, split_at h]
  refine Catalog.get?_ofList_last (e := (n, t)) _ fun hm => ?_
  obtain ⟨e, he, hn⟩ := List.mem_map.1 hm
  exact hlast e he hn

/-- A column whose name stands in backticks is read with its name and type as they stand exactly if the name has no
blank in it. If so, and if a primary key clause lists the name, then the column is primary exactly if the name has no
comma in it, or the type makes it primary. The table is that of the document unless a later one has its name. -/
theorem ticked_column_iff (sql : String) {i : Nat} {table : List Char} {before after : List (List Char)}
    (hsql : (declarations sql.toList)[i]? = some ⟨table, [','].intercalate (before ++ d :: after)⟩)
    (hsolid : ∀ e ∈ before ++ after, Scan.Solid 0 e) (hd : DefinesColumn name type d) (hname : name ≠ "")
    (htick : '`' ∉ name.toList) (htype : IsTypeText type) :
    let place := (Declaration.statement ⟨table, [','].intercalate before⟩).columns.length
    ∃ t, (declared sql)[i]? = some (String.ofList table, t) ∧
      ((∀ e ∈ (declared sql).drop (i + 1), e.1 ≠ String.ofList table) →
        (document sql).table? (String.ofList table) = some t) ∧
      ((∃ primary, t.fields[place]? = some ⟨name, type, primary⟩) ↔ ∀ c ∈ name.toList, isBlank c = false) ∧
      ((∀ c ∈ name.toList, isBlank c = false) → (∃ e ∈ before ++ after, ListsKey name e) →
        (t.fields[place]? = some ⟨name, type, true⟩ ↔
          ',' ∉ name.toList ∨ typeIsPrimary (upperChars type.toList) = true)) := by
  intro place
  have hall : ∀ e ∈ before ++ d :: after, Scan.Solid 0 e := by
    intro e he
    rcases List.mem_append.1 he with he | he
    · exact hsolid e (List.mem_append_left _ he)
    · rcases List.mem_cons.1 he with rfl | he
      · exact hd.solid htick htype
      · exact hsolid e (List.mem_append_right _ he)
  have hplace : place = (Statement.mk (String.ofList table) (readings before)).columns.length := by
    show (Statement.mk _ (clauses _)).columns.length = _
    rw [clauses_intercalate fun e he => hsolid e (List.mem_append_left _ he)]
  -- With no blank in the name, the definition is read as one clause between those before and behind it.
  have hfield (hblank : ∀ c ∈ name.toList, isBlank c = false) :
      (Statement.mk (String.ofList table) (readings (before ++ d :: after))).table.fields[place]? =
        some ⟨name, type, typeIsPrimary (upperChars type.toList) ||
          (Statement.mk (String.ofList table) (readings (before ++ d :: after))).primaryColumns.contains name⟩ := by
    have hne : name.toList ≠ [] := fun e => hname (String.toList_eq_nil_iff.1 e)
    have hread := read_definesColumn hd htype hne htick hblank
    have hclauses : readings (before ++ d :: after) = readings before ++
        .column ⟨name, type, typeIsPrimary (upperChars type.toList)⟩ :: readings after := by
      rw [readings, visible_append, visible_cons (hd.trim_ne_nil htype), List.map_append, List.map_cons, hread]
      rfl
    rw [hplace, hclauses]
    exact field_at _ _ _ _
  have hdeclared : (declared sql)[i]? =
      some (String.ofList table, (Statement.mk (String.ofList table) (readings (before ++ d :: after))).table) := by
    rw [declared_eq, List.getElem?_map, hsql, Option.map_some, Declaration.statement, clauses_intercalate hall]
  refine ⟨_, hdeclared, table?_last hdeclared, ?_, fun hblank hlists => ?_⟩
  · constructor
    · rintro ⟨primary, hf⟩
      exact name_of_mem_fields (List.mem_of_getElem? hf)
    · exact fun hblank => ⟨_, hfield hblank⟩
  · have hlists : ∃ e ∈ before ++ d :: after, ListsKey name e := by
      obtain ⟨e, he, hl⟩ := hlists
      refine ⟨e, ?_, hl⟩
      simp only [List.mem_append, List.mem_cons] at he ⊢
      exact he.imp_right .inr
    rw [hfield hblank, Option.some.injEq, Field.mk.injEq]
    simp only [true_and, Bool.or_eq_true, List.contains_iff_mem, mem_primaryColumns_iff htick hlists]
    exact or_comm

/-- A name with a quote, a parenthesis and a keyword in it, listed in a named primary key. -/
theorem ticked_column_iff_listed :
    let sql := "CREATE TABLE t (x INT, `it's)key` DECIMAL(10,2) COMMENT 'a, b', constraint `k` primary\tkey ( x, `it's)key` ) USING BTREE);"
    let before := ["x INT".toList]
    let after := [" constraint `k` primary\tkey ( x, `it's)key` ) USING BTREE".toList]
    (declarations sql.toList)[0]? = some ⟨"t".toList, [','].intercalate
        (before ++ " `it's)key` DECIMAL(10,2) COMMENT 'a, b'".toList :: after)⟩ ∧
      (∀ e ∈ before ++ after, Scan.Solid 0 e) ∧ (∃ e ∈ before ++ after, ListsKey "it's)key" e) ∧
      ∃ t, (document sql).table? "t" = some t ∧
        t.fields[1]? = some ⟨"it's)key", "DECIMAL(10,2) COMMENT 'a, b'", true⟩ := by
  intro sql before after
  have hsql : (declarations sql.toList)[0]? = some ⟨"t".toList, [','].intercalate
      (before ++ " `it's)key` DECIMAL(10,2) COMMENT 'a, b'".toList :: after)⟩ := by decide +kernel
  have hsolid : ∀ e ∈ before ++ after, Scan.Solid 0 e := by decide +kernel
  have hcolumn : DefinesColumn "it's)key" "DECIMAL(10,2) COMMENT 'a, b'" " `it's)key` DECIMAL(10,2) COMMENT 'a, b'".toList :=
    ⟨[' '], [' '], [], by decide +kernel, by decide, by decide, by decide⟩
  have htype : IsTypeText "DECIMAL(10,2) COMMENT 'a, b'" := ⟨by decide +kernel, by decide +kernel, by decide +kernel⟩
  have hkey : IsKeyClause ([','].intercalate [" x".toList, " `it's)key` ".toList])
      (trimChars " constraint `k` primary\tkey ( x, `it's)key` ) USING BTREE".toList) := by
    have htext : trimChars " constraint `k` primary\tkey ( x, `it's)key` ) USING BTREE".toList =
        "constraint".toList ++ ([' '] ++ (quoted "k" ++ ([' '] ++ ("primary".toList ++ (['\t'] ++ ("key".toList ++
          ([' '] ++ '(' :: ([','].intercalate [" x".toList, " `it's)key` ".toList] ++ ')' :: " USING BTREE".toList)))))))) := by
      decide +kernel
    rw [htext]
    exact .named (by decide +kernel) (by decide) (.inl ⟨"k", by decide +kernel, rfl⟩) (by decide)
      ⟨_, _, _, _, _, by decide +kernel, by decide, by decide +kernel, by decide, by decide +kernel, rfl⟩
  have hlists : ∃ e ∈ before ++ after, ListsKey "it's)key" e :=
    ⟨_, List.mem_append_right _ List.mem_cons_self, _, [' '], [' '], hkey, by decide +kernel, by decide, by decide,
      by decide +kernel, by decide +kernel⟩
  obtain ⟨t, -, htable, -, hprimary⟩ :=
    ticked_column_iff sql hsql hsolid hcolumn (by decide) (by decide +kernel) htype
  have hplace : (Declaration.statement ⟨"t".toList, [','].intercalate before⟩).columns.length = 1 := by decide +kernel
  rw [hplace] at hprimary
  have hvisible : "it's)key".toList.all (!isBlank ·) = true := by decide +kernel
  refine ⟨hsql, hsolid, hlists, t, htable (by decide +kernel), (hprimary (fun c hc => ?_) hlists).2 (.inl (by decide +kernel))⟩
  simpa using List.all_eq_true.1 hvisible c hc

/-- A name with a blank is cut at the blank, and one with a comma is not found in the list of the primary key. -/
theorem ticked_names_cut :
    let blank := "CREATE TABLE t (`a b` INT);"
    let comma := "CREATE TABLE t (`a,b` INT, PRIMARY KEY (`a,b`));"
    (DefinesColumn "a b" "INT" "`a b` INT".toList ∧ (declarations blank.toList)[0]? = some ⟨"t".toList, "`a b` INT".toList⟩ ∧
        (document blank).table? "t" = some ⟨[⟨"a", "b` INT", false⟩], []⟩) ∧
      DefinesColumn "a,b" "INT" "`a,b` INT".toList ∧ ListsKey "a,b" " PRIMARY KEY (`a,b`)".toList ∧
        (declarations comma.toList)[0]? = some ⟨"t".toList, [','].intercalate ["`a,b` INT".toList, " PRIMARY KEY (`a,b`)".toList]⟩ ∧
        (document comma).table? "t" = some ⟨[⟨"a,b", "INT", false⟩], []⟩ := by
  intro blank comma
  have hkey : IsKeyClause ([','].intercalate ["`a,b`".toList]) (trimChars " PRIMARY KEY (`a,b`)".toList) := by
    have htext : trimChars " PRIMARY KEY (`a,b`)".toList = "PRIMARY".toList ++ ([' '] ++ ("KEY".toList ++
        ([' '] ++ '(' :: ([','].intercalate ["`a,b`".toList] ++ ')' :: [])))) := by decide +kernel
    rw [htext]
    exact .plain ⟨_, _, _, _, _, by decide +kernel, by decide, by decide +kernel, by decide, by decide, rfl⟩
  refine ⟨⟨⟨[], [' '], [], by decide +kernel, rfl, by decide, rfl⟩, by decide +kernel, by decide +kernel⟩,
    ⟨[], [' '], [], by decide +kernel, rfl, by decide, rfl⟩, ?_, by decide +kernel, by decide +kernel⟩
  exact ⟨_, [], [], hkey, by decide +kernel, rfl, rfl, by decide +kernel, by decide +kernel⟩

end SchemaAtlas.Dump
