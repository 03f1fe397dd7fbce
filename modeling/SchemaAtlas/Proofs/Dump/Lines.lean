import SchemaAtlas.Dump.Printer
import SchemaAtlas.Proofs.Dump.Scanning
/-!
# Reading a printed line

Each line that a table prints declares the clause it stands for: a column (`declares_columnLine`),
the primary key (`declares_keyText`) or a foreign key (`declares_foreignKeyLine`). Printed names
stand in backticks, so a reader that ends at a backtick reads the whole name (`eatRun_quoted`).
-/

namespace SchemaAtlas.Dump

open Text

/-! ## Names and types that can be printed -/

/-- A name made of the characters of one kind, at least one of them. -/
def IsName (p : Char → Bool) (name : String) : Prop :=
  name.toList ≠ [] ∧ name.toList.all p = true

instance (p : Char → Bool) (name : String) : Decidable (IsName p name) :=
  inferInstanceAs (Decidable (_ ∧ _))

/-- The characters of a column's name: no blank, backtick, comma or closing parenthesis. -/
def isColumnChar (c : Char) : Bool := !isBlank c && c != '`' && c != ',' && c != ')'

/-- The characters of a referenced table's name: no blank, backtick or opening parenthesis. -/
def isTargetChar (c : Char) : Bool := !isBlank c && c != '`' && c != '('

/-- A column type that can be printed. -/
structure IsType (type : String) : Prop where
  nonempty : type.toList ≠ []
  trimmed : trimChars type.toList = type.toList
  /-- All quotations and parentheses are closed. -/
  balanced : Scan.Balanced type.toList
  /-- No parenthesis is closed that was not opened before. -/
  opened : ')' ∉ Scan.outer {} type.toList
  /-- Commas stand in quotations and parentheses only. -/
  comma : ',' ∉ Scan.outer {} type.toList
  /-- It does not make its column a primary key. -/
  notPrimary : typeIsPrimary (upperChars type.toList) = false

instance (type : String) : Decidable (IsType type) :=
  decidable_of_iff (type.toList ≠ [] ∧ trimChars type.toList = type.toList ∧
    Scan.Balanced type.toList ∧ ')' ∉ Scan.outer {} type.toList ∧ ',' ∉ Scan.outer {} type.toList ∧
    typeIsPrimary (upperChars type.toList) = false)
    ⟨fun ⟨a, b, c, d, e, f⟩ => ⟨a, b, c, d, e, f⟩, fun ⟨a, b, c, d, e, f⟩ => ⟨a, b, c, d, e, f⟩⟩

theorem IsType.solid {type : String} (h : IsType type) : Scan.Solid 0 type.toList :=
  ⟨h.balanced, h.opened, h.comma⟩

/-- A foreign key that can be printed. -/
structure IsKey (k : ForeignKey) : Prop where
  field : IsName isColumnChar k.field
  table : IsName isTargetChar k.referencesTable
  target : IsName isColumnChar k.referencesField

instance (k : ForeignKey) : Decidable (IsKey k) :=
  decidable_of_iff (IsName isColumnChar k.field ∧ IsName isTargetChar k.referencesTable ∧
    IsName isColumnChar k.referencesField) ⟨fun ⟨a, b, c⟩ => ⟨a, b, c⟩, fun ⟨a, b, c⟩ => ⟨a, b, c⟩⟩

variable {p q : Char → Bool} {name : String}

theorem IsName.char (h : IsName p name) {c : Char} (hc : c ∈ name.toList) : p c = true :=
  List.all_eq_true.1 h.2 c hc

theorem IsName.not_mem (h : IsName p name) {c : Char} (hc : p c = false) : c ∉ name.toList := by
  intro hm
  rw [h.char hm] at hc
  cases hc

/-- A name without what is dropped is not shortened. -/
theorem IsName.stripBoth (h : IsName p name) (hpq : ∀ c, p c = true → q c = false) :
    stripBoth q name.toList = name.toList :=
  stripBoth_eq_self_iff.2 ⟨fun c hc => hpq c (h.char (List.mem_of_mem_head? hc)),
    fun c hc => hpq c (h.char (List.mem_of_mem_getLast? hc))⟩

theorem isBlank_of_isColumnChar {c : Char} (h : isColumnChar c = true) : isBlank c = false := by
  simp only [isColumnChar, Bool.and_eq_true, Bool.not_eq_true'] at h
  exact h.1.1.1

/-! ## Quoted names -/

theorem solid_quoted (h : IsName p name) (hp : p '`' = false) (n : Int) : Scan.Solid n (quoted name) :=
  Scan.solid_ticked (h.not_mem hp) n

theorem eatRun_append {a rest : List Char} (ha : a ≠ []) (hq : ∀ c ∈ a, q c = true)
    (hstop : ∀ c, rest.head? = some c → q c = false) : eatRun q (a ++ rest) = some (a, rest) := by
  have htake : rest.takeWhile q = [] := by
    cases rest with
    | nil => rfl
    | cons c rest => simp [hstop c rfl]
  unfold eatRun
  rw [List.takeWhile_append_of_pos hq, List.dropWhile_append_of_pos hq, htake, dropWhile_eq_self hstop,
    List.append_nil]
  cases a with
  | nil => exact absurd rfl ha
  | cons => rfl

/-- A run that ends at backticks reads a quoted name. -/
theorem eatRun_quoted (h : IsName p name) (hpq : ∀ c, p c = true → q c = true) (hq : q '`' = false)
    (rest : List Char) :
    eatRun q (dropTick (quoted name ++ rest)) = some (name.toList, '`' :: rest) := by
  have htext : dropTick (quoted name ++ rest) = name.toList ++ '`' :: rest := by
    simp [quoted, dropTick]
  rw [htext]
  refine eatRun_append h.1 (fun c hc => hpq c (h.char hc)) fun c hc => ?_
  cases hc
  exact hq

theorem trim_quoted (name : String) : trimChars (quoted name) = quoted name :=
  stripBoth_of_ends rfl List.getLast?_concat rfl rfl

/-- A line declares what is read from it without the two blanks in front. -/
theorem declares_indented {text : List Char} {c : Clause} (hsolid : Scan.Solid 0 text)
    (htrim : trimChars text = text) (hne : text ≠ []) (hread : Clause.read text = c) :
    Declares ([' ', ' '] ++ text) c := by
  have htext : trimChars ([' ', ' '] ++ text) = text := by
    have hdrop : trimChars ([' ', ' '] ++ text ++ []) = trimChars text :=
      stripBoth_append rfl rfl
    rwa [List.append_nil, htrim] at hdrop
  refine ⟨Scan.Solid.append (by decide) hsolid, ?_, ?_⟩
  · rwa [htext]
  · rwa [htext]

/-! ## Columns -/

/-- The line of a column without the blanks in front. -/
def columnText (f : Field) : List Char := quoted f.name ++ ([' '] ++ f.type.toList)

theorem trim_columnText {f : Field} (ht : IsType f.type) : trimChars (columnText f) = columnText f := by
  -- The type is not empty, so its last character ends the line.
  obtain ⟨x, hx⟩ := Option.isSome_iff_exists.1 (List.getLast?_isSome.2 ht.nonempty)
  have hlast : (columnText f).getLast? = some x := by
    rw [columnText, ← List.append_assoc, List.getLast?_append, hx]
    rfl
  exact stripBoth_of_ends rfl hlast rfl ((stripBoth_eq_self_iff.1 ht.trimmed).2 x hx)

theorem column?_columnText {f : Field} (hn : IsName isColumnChar f.name) (ht : IsType f.type) :
    column? (columnText f) = some { f with isPrimary := false } := by
  have hname : eatRun (fun c => c != '`' && !isBlank c) (dropTick (columnText f)) =
      some (f.name.toList, '`' :: ' ' :: f.type.toList) := by
    refine eatRun_quoted hn (fun c hc => ?_) rfl _
    simp only [isColumnChar, Bool.and_eq_true] at hc
    simp [hc]
  have htype : eatBlanks (dropTick ('`' :: ' ' :: f.type.toList)) = some f.type.toList :=
    congrArg some (dropWhile_eq_self (stripBoth_eq_self_iff.1 ht.trimmed).1)
  simp [column?, hname, htype, ht.nonempty, ht.trimmed, ht.notPrimary]

/-- The line of a column declares the column, which is not primary by its type. -/
theorem declares_columnLine {f : Field} (hn : IsName isColumnChar f.name) (ht : IsType f.type) :
    Declares (columnLine f) (.column { f with isPrimary := false }) := by
  have hline : columnLine f = [' ', ' '] ++ columnText f := by simp [columnLine, columnText]
  have hsolid : Scan.Solid 0 (columnText f) :=
    (solid_quoted hn rfl 0).append (Scan.Solid.append (by decide) ht.solid)
  have hkind : isColumn (upperChars (columnText f)) = true := rfl
  rw [hline]
  refine declares_indented hsolid (trim_columnText ht) (List.cons_ne_nil _ _) ?_
  rw [Clause.read, if_pos hkind, column?_columnText hn ht]
  rfl

/-! ## Words in a text -/

theorem occursIn_eq_false {w cs : List Char} {c : Char} (hw : c ∈ w) (hc : c ∉ cs) :
    occursIn w cs = false := by
  induction cs with
  | nil =>
    rw [occursIn, List.isEmpty_eq_false_iff]
    exact List.ne_nil_of_mem hw
  | cons x cs ih =>
    rw [occursIn, ih fun h => hc (List.mem_cons_of_mem _ h), Bool.or_false, Bool.eq_false_iff]
    intro h
    exact hc ((List.isPrefixOf_iff_prefix.1 h).subset hw)

/-- A word does not start where its first letter is missing. -/
theorem occursIn_append {c : Char} {w a : List Char} (h : c ∉ a) (b : List Char) :
    occursIn (c :: w) (a ++ b) = occursIn (c :: w) b := by
  induction a with
  | nil => rfl
  | cons x a ih =>
    rw [List.mem_cons, not_or] at h
    have hx : (c == x) = false := by simpa using h.1
    rw [List.cons_append, occursIn, ih h.2, List.isPrefixOf_cons_cons, hx]
    rfl

theorem space_not_mem_upperChar {c : Char} (h : c ≠ ' ') : ' ' ∉ upperChar c := by
  have hlow : ∀ n < 0x80, Char.ofNat n ≠ ' ' → (Char.ofNat n).toUpper ≠ ' ' := by decide
  have hhigh : ∀ e ∈ upperSpecial, ' ' ∉ e.2 := by decide
  unfold upperChar
  split
  · next hlt =>
    have hupper := hlow c.toNat hlt
    rw [Char.ofNat_toNat] at hupper
    simpa using (hupper h).symm
  · cases hl : upperSpecial.lookup c.toNat with
    | none => simpa using h.symm
    | some v =>
      obtain ⟨a, b, hab, -⟩ := List.lookup_eq_some_iff.1 hl
      exact hhigh _ (hab ▸ List.mem_append_right a (List.mem_cons_self ..))

/-- No blank comes into a text by writing it in upper case. -/
theorem space_not_mem_upperChars {cs : List Char} (h : ' ' ∉ cs) : ' ' ∉ upperChars cs := by
  intro hm
  obtain ⟨c, hc, hs⟩ := List.mem_flatMap.1 hm
  exact space_not_mem_upperChar (fun e => h (e ▸ hc)) hs

/-! ## The primary key -/

theorem commaParts_append {a : List Char} (h : ',' ∉ a) (rest : List Char) :
    commaParts (a ++ ',' :: rest) = a :: commaParts rest := by
  induction a with
  | nil => rfl
  | cons c a ih =>
    rw [List.mem_cons, not_or] at h
    rw [List.cons_append, commaParts, if_neg (Ne.symm h.1), ih h.2]

theorem commaParts_eq {a : List Char} (h : ',' ∉ a) : commaParts a = [a] := by
  induction a with
  | nil => rfl
  | cons c a ih =>
    rw [List.mem_cons, not_or] at h
    rw [commaParts, if_neg (Ne.symm h.1), ih h.2]

theorem commaParts_intercalate {ls : List (List Char)} (hne : ls ≠ []) (h : ∀ l ∈ ls, ',' ∉ l) :
    commaParts ([','].intercalate ls) = ls := by
  induction ls with
  | nil => exact absurd rfl hne
  | cons l ls ih =>
    have hl := h l (List.mem_cons_self ..)
    cases ls with
    | nil => rw [List.intercalate_singleton, commaParts_eq hl]
    | cons m ls =>
      rw [List.intercalate_cons_cons, List.append_assoc, List.singleton_append, commaParts_append hl,
        ih (List.cons_ne_nil _ _) fun k hk => h k (List.mem_cons_of_mem _ hk)]

/-- The names of the primary columns, in order. -/
def primaryNames (fields : List Field) : List String := (fields.filter (·.isPrimary)).map Field.name

/-- The names of a primary key as they stand in its line. -/
def keyNames (names : List String) : List Char := [','].intercalate (names.map quoted)

/-- The line of the primary key without the blanks in front. -/
def keyText (names : List String) : List Char :=
  ['P', 'R', 'I', 'M', 'A', 'R', 'Y', ' ', 'K', 'E', 'Y', ' '] ++ (['('] ++ keyNames names ++ [')'])

theorem primaryKeyLine?_eq (fields : List Field) : primaryKeyLine? fields =
    if primaryNames fields = [] then none else some ([' ', ' '] ++ keyText (primaryNames fields)) := by
  have hwords : "  PRIMARY KEY (".toList =
      [' ', ' ', 'P', 'R', 'I', 'M', 'A', 'R', 'Y', ' ', 'K', 'E', 'Y', ' ', '('] := rfl
  unfold primaryKeyLine? primaryNames
  cases fields.filter (·.isPrimary) with
  | nil => rfl
  | cons f fs => simp [hwords, keyText, keyNames, Function.comp_def]

theorem not_mem_quoted {x : Char} (hx : x ≠ '`') (h : x ∉ name.toList) : x ∉ quoted name := by
  simp [quoted, hx, h]

theorem not_mem_keyNames {names : List String} {x : Char} (hx : x ≠ '`') (hcomma : x ≠ ',')
    (h : ∀ n ∈ names, x ∉ n.toList) : x ∉ keyNames names := by
  refine intercalate_closed (P := (x ∉ ·)) List.not_mem_nil (fun a b ha hb hm => ?_)
    (by simpa using hcomma) fun l hl => ?_
  · exact (List.mem_append.1 hm).elim ha hb
  · obtain ⟨n, hn, rfl⟩ := List.mem_map.1 hl
    exact not_mem_quoted hx (h n hn)

theorem solid_keyText {names : List String} (h : ∀ n ∈ names, IsName isColumnChar n) :
    Scan.Solid 0 (keyText names) := by
  have hin : Scan.Solid 1 (keyNames names) := by
    refine Scan.Solid.intercalate (by decide) fun l hl => ?_
    obtain ⟨n, hn, rfl⟩ := List.mem_map.1 hl
    exact solid_quoted (h n hn) rfl 1
  exact Scan.Solid.append (by decide) hin.parens

theorem trim_keyText (names : List String) : trimChars (keyText names) = keyText names := by
  have hlast : (keyText names).getLast? = some ')' := by
    rw [keyText, ← List.append_assoc _ _ [')'], List.getLast?_concat]
  exact stripBoth_of_ends rfl hlast rfl rfl

/-- The key's names are found again between its commas. -/
theorem primaryKeyHere?_keyText {names : List String} (hne : names ≠ [])
    (h : ∀ n ∈ names, IsName isColumnChar n) :
    primaryKeyHere? (keyText names) = some names := by
  have hline : (keyNames names ++ [')']).takeWhile (· != '\n') = keyNames names ++ [')'] := by
    have hnl : '\n' ∉ keyNames names :=
      not_mem_keyNames (by decide) (by decide) fun n hn => (h n hn).not_mem rfl
    exact List.takeWhile_append_of_pos fun c hc => bne_iff_ne.2 fun e => hnl (e ▸ hc)
  have hlast : beforeLastParen (keyNames names ++ [')']) = some (keyNames names) := by
    simp [beforeLastParen]
  have hparts : commaParts (keyNames names) = names.map quoted := by
    refine commaParts_intercalate (by simpa using hne) fun k hk => ?_
    obtain ⟨n, hn, rfl⟩ := List.mem_map.1 hk
    exact not_mem_quoted (by decide) ((h n hn).not_mem rfl)
  have hname : ∀ n ∈ names, String.ofList (stripBoth (· == '`') (trimChars (quoted n))) = n := by
    intro n hn
    rw [trim_quoted, quoted, stripBoth_append rfl rfl, (h n hn).stripBoth, String.ofList_toList]
    intro c hc
    simp only [isColumnChar, Bool.and_eq_true, bne_iff_ne] at hc
    simpa using hc.1.1.2
  have hwords : primaryKeyHere? (keyText names) =
      (beforeLastParen ((keyNames names ++ [')']).takeWhile (· != '\n'))).bind fun columns =>
        some ((commaParts columns).map fun c => String.ofList (stripBoth (· == '`') (trimChars c))) := rfl
  rw [hwords, hline, hlast, Option.bind_some, hparts, List.map_map]
  exact congrArg some ((List.map_congr_left hname).trans (List.map_id _))

theorem read_keyText {names : List String} (hne : names ≠ [])
    (h : ∀ n ∈ names, IsName isColumnChar n) :
    Clause.read (keyText names) = .primaryKey names := by
  have hkind : isColumn (upperChars (keyText names)) = false := rfl
  have hforeign : occursIn "FOREIGN KEY".toList (upperChars (keyText names)) = false := by
    have hblank : ' ' ∉ keyNames names ++ [')'] := by
      rw [List.mem_append, not_or]
      exact ⟨not_mem_keyNames (by decide) (by decide) fun n hn => (h n hn).not_mem rfl, by decide⟩
    -- Before the names there is no F, and from the names on there is no blank.
    have hwords : upperChars (keyText names) =
        ['P', 'R', 'I', 'M', 'A', 'R', 'Y', ' ', 'K', 'E', 'Y', ' ', '('] ++
          upperChars (keyNames names ++ [')']) := rfl
    rw [hwords]
    exact (occursIn_append (by decide) _).trans
      (occursIn_eq_false (by decide) (space_not_mem_upperChars hblank))
  have hkey : primaryKey? (keyText names) = primaryKeyHere? (keyText names) := rfl
  rw [Clause.read, hkind, hforeign, hkey, primaryKeyHere?_keyText hne h]
  rfl

/-- The line of the primary key declares the list of its names. -/
theorem declares_keyText {names : List String} (hne : names ≠ [])
    (h : ∀ n ∈ names, IsName isColumnChar n) :
    Declares ([' ', ' '] ++ keyText names) (.primaryKey names) :=
  declares_indented (solid_keyText h) (trim_keyText _) (List.cons_ne_nil _ _) (read_keyText hne h)

/-! ## Foreign keys -/

/-- The end of a foreign key's line: the column that is referred to. -/
def targetText (k : ForeignKey) : List Char := ['('] ++ quoted k.referencesField ++ [')']

/-- The line of a foreign key from `REFERENCES` on. -/
def referenceText (k : ForeignKey) : List Char :=
  ['R', 'E', 'F', 'E', 'R', 'E', 'N', 'C', 'E', 'S', ' '] ++
    (quoted k.referencesTable ++ ([' '] ++ targetText k))

/-- The line of a foreign key without the blanks in front. -/
def foreignText (k : ForeignKey) : List Char :=
  ['F', 'O', 'R', 'E', 'I', 'G', 'N', ' ', 'K', 'E', 'Y', ' '] ++
    (['('] ++ quoted k.field ++ [')'] ++ ([' '] ++ referenceText k))

theorem foreignKeyLine_eq (k : ForeignKey) : foreignKeyLine k = [' ', ' '] ++ foreignText k := by
  have hwords : foreignKeyLine k =
      [' ', ' ', 'F', 'O', 'R', 'E', 'I', 'G', 'N', ' ', 'K', 'E', 'Y', ' ', '('] ++ quoted k.field ++
        [')', ' ', 'R', 'E', 'F', 'E', 'R', 'E', 'N', 'C', 'E', 'S', ' '] ++ quoted k.referencesTable ++
        [' ', '('] ++ quoted k.referencesField ++ [')'] := rfl
  rw [hwords, foreignText, referenceText, targetText]
  simp only [List.append_assoc, List.cons_append, List.nil_append]

theorem solid_foreignText {k : ForeignKey} (h : IsKey k) : Scan.Solid 0 (foreignText k) := by
  have htarget : Scan.Solid 0 (targetText k) := (solid_quoted h.target rfl 1).parens
  have hreference : Scan.Solid 0 (referenceText k) :=
    Scan.Solid.append (by decide) ((solid_quoted h.table rfl 0).append (Scan.Solid.append (by decide) htarget))
  exact Scan.Solid.append (by decide)
    ((solid_quoted h.field rfl 1).parens.append (Scan.Solid.append (by decide) hreference))

theorem trim_foreignText (k : ForeignKey) : trimChars (foreignText k) = foreignText k := by
  have hlast : (foreignText k).getLast? = some ')' := by
    simp only [foreignText, referenceText, targetText, ← List.append_assoc, List.getLast?_concat]
  exact stripBoth_of_ends rfl hlast rfl rfl

theorem columnList?_quoted (h : IsName isColumnChar name) (rest : List Char) :
    columnList? (quoted name ++ ')' :: rest) = some (name.toList, rest) := by
  have hrun : eatRun (fun c => c != '`' && c != ')') (dropTick (quoted name ++ ')' :: rest)) =
      some (name.toList, '`' :: ')' :: rest) := by
    refine eatRun_quoted h (fun c hc => ?_) rfl _
    simp only [isColumnChar, Bool.and_eq_true] at hc
    simp [hc]
  have hstart : (quoted name ++ ')' :: rest).dropWhile isBlank = quoted name ++ ')' :: rest := rfl
  have htrim : trimChars name.toList = name.toList := h.stripBoth fun c => isBlank_of_isColumnChar
  simp only [columnList?, hstart, hrun, htrim]
  rfl

theorem foreignKeyHere?_foreignText {k : ForeignKey} (h : IsKey k) :
    foreignKeyHere? (foreignText k) = some k := by
  have hforeign : eatWordBlanks ['f', 'o', 'r', 'e', 'i', 'g', 'n'] (foreignText k) =
      some ('K' :: 'E' :: 'Y' :: ' ' :: '(' :: (quoted k.field ++ ')' :: ' ' :: referenceText k)) := by
    simp only [foreignText, List.append_assoc]
    rfl
  have hkey : ∀ cs, eatWord ['k', 'e', 'y'] ('K' :: 'E' :: 'Y' :: cs) = some cs := fun _ => rfl
  have hopen : ∀ cs, eat '(' ((' ' :: '(' :: cs).dropWhile isBlank) = some cs := fun _ => rfl
  have hreferences : eatWordBlanks ['r', 'e', 'f', 'e', 'r', 'e', 'n', 'c', 'e', 's']
      ((' ' :: referenceText k).dropWhile isBlank) =
      some (quoted k.referencesTable ++ ([' '] ++ targetText k)) := rfl
  have htable : eatRun (fun c => c != '`' && c != '(' && !isBlank c)
      (dropTick (quoted k.referencesTable ++ ([' '] ++ targetText k))) =
      some (k.referencesTable.toList, '`' :: ([' '] ++ targetText k)) := by
    refine eatRun_quoted h.table (fun c hc => ?_) rfl _
    simp only [isTargetChar, Bool.and_eq_true] at hc
    simp [hc]
  have htarget : eat '(' ((dropTick ('`' :: ([' '] ++ targetText k))).dropWhile isBlank) =
      some (quoted k.referencesField ++ [')']) := rfl
  simp only [foreignKeyHere?, hforeign, hkey, hopen, columnList?_quoted h.field, hreferences, htable, htarget,
    columnList?_quoted h.target, Option.bind_eq_bind, Option.bind_some, Option.pure_def, String.ofList_toList]

theorem foreignKey?_of_here {c : Char} {cs : List Char} {k : ForeignKey}
    (h : foreignKeyHere? (c :: cs) = some k) : foreignKey? (c :: cs) = some k := by
  rw [foreignKey?, h]

theorem read_foreignText {k : ForeignKey} (h : IsKey k) : Clause.read (foreignText k) = .foreignKey k := by
  have hkind : isColumn (upperChars (foreignText k)) = false := rfl
  have hforeign : occursIn "FOREIGN KEY".toList (upperChars (foreignText k)) = true := rfl
  have hkey : foreignKey? (foreignText k) = some k := foreignKey?_of_here (foreignKeyHere?_foreignText h)
  rw [Clause.read, hkind, hforeign, hkey]
  rfl

/-- The line of a foreign key declares the key. -/
theorem declares_foreignKeyLine {k : ForeignKey} (h : IsKey k) :
    Declares (foreignKeyLine k) (.foreignKey k) := by
  rw [foreignKeyLine_eq]
  exact declares_indented (solid_foreignText h) (trim_foreignText k) (List.cons_ne_nil _ _) (read_foreignText h)

end SchemaAtlas.Dump
