import SchemaAtlas.Proofs.Dump.ForeignClause
/-!
# Foreign keys of one column and of several

What becomes of the clause of a foreign key in the body of a table. It stays in one piece (`DefinesForeign.solid`) and
gives one key at most (`read_definesForeign`). So the keys of a clause are those of its columns, one by one, exactly if
there is one column (`foreign_widths_iff`).
-/

namespace SchemaAtlas.Dump

open Text

variable {name table : String} {names columns targets : List String} {x : Char} {cs w list list' : List Char}

/-! ## The definition of a foreign key -/

theorem isColumn_of_isNaming {naming : List Char} (hn : IsNaming naming) (h : IsForeignText table list list' cs) :
    isColumn (upperChars (naming ++ cs)) = false := by
  cases hn with
  | nothing =>
    obtain ⟨f, k, b, b', reference, hf, -, -, -, -, rfl⟩ := h
    rw [List.nil_append, upperChars_append, upperChars_of_spells hf rfl]
    exact isColumn_word rfl ⟨_, _, rfl, by decide⟩ rfl rfl
  | @named c gap symbol gap' name hc hgap _ _ =>
    obtain ⟨x, r, hr, hx⟩ := upperChars_gap hgap (symbol ++ gap' ++ cs)
    rw [List.append_assoc, List.append_assoc, upperChars_append, upperChars_of_spells hc rfl, hr]
    exact isColumn_word rfl ⟨_, _, rfl, by decide⟩ rfl hx

theorem occursIn_between (a w b : List Char) : occursIn w (a ++ (w ++ b)) = true := by
  induction a with
  | nil =>
    cases hw : w ++ b with
    | nil => simp [occursIn, (List.append_eq_nil_iff.1 hw).1]
    | cons c cs =>
      have hstart : w.isPrefixOf (c :: cs) = true := by
        rw [← hw, List.isPrefixOf_iff_prefix]
        exact List.prefix_append w b
      rw [List.nil_append, occursIn, hstart]
      rfl
  | cons c a ih => rw [List.cons_append, occursIn, ih, Bool.or_true]

theorem IsForeignText.speaks (h : IsForeignText table list list' cs) (naming : List Char) :
    occursIn "FOREIGN KEY".toList (upperChars (naming ++ cs)) = true := by
  obtain ⟨f, k, b, b', reference, hf, hk, -, -, -, rfl⟩ := h
  have htext : upperChars (naming ++ (f ++ ([' '] ++ (k ++ (b ++ '(' :: (list ++ ')' :: (b' ++ reference))))))) =
      upperChars naming ++ ("FOREIGN KEY".toList ++ upperChars (b ++ '(' :: (list ++ ')' :: (b' ++ reference)))) := by
    rw [upperChars_append, upperChars_append, upperChars_append, upperChars_append (a := k), upperChars_of_spells hf rfl,
      upperChars_of_spells hk rfl]
    rfl
  rw [htext]
  exact occursIn_between _ _ _

theorem IsForeignText.getLast (h : IsForeignText table list list' cs) : cs.getLast? = some ')' := by
  obtain ⟨f, k, b, b', reference, -, -, -, -, ⟨r, gap, w, b'', -, -, -, -, rfl⟩, rfl⟩ := h
  simp [List.getLast?_append, List.getLast?_cons]

theorem IsNaming.head {naming : List Char} (hn : IsNaming naming) (h : IsForeignText table list list' cs) :
    ∃ c, (naming ++ cs).head? = some c ∧ isBlank c = false := by
  cases hn with
  | nothing =>
    obtain ⟨c, r, rfl, -, hblank⟩ := h.head
    exact ⟨c, rfl, hblank⟩
  | @named c gap symbol gap' name hc hgap _ _ =>
    obtain ⟨x, r, hr, hupper, -⟩ := head_of_spells hc rfl (by decide) (gap ++ (symbol ++ gap') ++ cs)
    rw [← List.append_assoc] at hr
    exact ⟨x, by rw [hr]; rfl, (letter_of_toUpper hupper).2.2.1⟩

variable {d : List Char}

theorem trim_definesForeign (h : DefinesForeign table list list' d) :
    ∃ naming cs, trimChars d = naming ++ cs ∧ IsNaming naming ∧ IsForeignText table list list' cs := by
  obtain ⟨lead, naming, cs, trail, hlead, hn, hcs, htrail, rfl⟩ := h
  obtain ⟨c, hhead, hblank⟩ := hn.head hcs
  refine ⟨naming, cs, ?_, hn, hcs⟩
  have hlast : (naming ++ cs).getLast? = some ')' := by rw [List.getLast?_append, hcs.getLast, Option.some_or]
  rw [trimChars, stripBoth_append hlead htrail]
  exact stripBoth_of_ends hhead hlast hblank rfl

theorem DefinesForeign.trim_ne_nil (h : DefinesForeign table list list' d) : trimChars d ≠ [] := by
  obtain ⟨naming, cs, htrim, hn, hcs⟩ := trim_definesForeign h
  obtain ⟨c, hhead, -⟩ := hn.head hcs
  rw [htrim]
  rintro hnil
  rw [hnil] at hhead
  cases hhead

/-- A clause is read as the one key, if any. -/
theorem read_definesForeign (h : DefinesForeign table list list' d) (hlist : Lists columns list)
    (hlist' : Lists targets list') :
    Clause.read (trimChars d) = ((clauseKey? table columns targets list list').map Clause.foreignKey).getD .other := by
  obtain ⟨naming, cs, htrim, hn, hcs⟩ := trim_definesForeign h
  rw [htrim, read_of_foreign (isColumn_of_isNaming hn hcs) (hcs.speaks naming), foreignKey?_naming hn hcs,
    foreignKey?_of_isForeignText hcs hlist hlist']

/-! ### The definition stays in one piece -/

theorem solid_word {cs : List Char} (h : ∀ c ∈ cs, isTableChar c = true) (n : Int) : Scan.Solid n cs := by
  refine solid_of_inert (fun c hc => ?_) n
  have hne : ∀ y, isTableChar y = false → c ≠ y := fun y => ne_of_isTableChar (h c hc)
  simp [isQuote, hne '\'' rfl, hne '"' rfl, hne '`' rfl, hne '(' rfl, hne ')' rfl, hne ',' rfl]

theorem solid_spells (h : Spells w cs) (hw : w.all Char.isUpper = true) (n : Int) : Scan.Solid n cs := by
  refine solid_word (fun c hc => ?_) n
  have hupper := h.letters hw hc
  exact forall_ascii (P := fun c => c.toUpper.isUpper = true → isTableChar c = true) (by decide)
    (toNat_of_toUpper hupper) hupper

theorem Writes.solid (h : Writes name w) (n : Int) : Scan.Solid n w := by
  rcases h.2 with rfl | rfl
  · exact solid_word (fun c hc => h.1.char hc) n
  · exact solid_quoted h.1 rfl n

theorem Lists.solid (h : Lists names list) : Scan.Solid 1 list := by
  have hentry : ∀ {name : String} {part : List Char}, IsEntry name part → Scan.Solid 1 part := by
    rintro name part ⟨l, w, r, hl, hw, hr, rfl⟩
    exact (solid_blanks hl 1).append ((hw.solid 1).append (solid_blanks hr 1))
  induction h with
  | one h => exact hentry h
  | more h _ ih => exact (hentry h).append (Scan.Solid.append (a := [',']) (by decide) ih)

theorem IsNaming.solid {naming : List Char} (h : IsNaming naming) : Scan.Solid 0 naming := by
  cases h with
  | nothing => exact .nil 0
  | named hc hgap hsymbol hgap' =>
    exact (solid_spells hc rfl 0).append
      ((solid_blanks hgap.2 0).append ((hsymbol.solid 0).append (solid_blanks hgap'.2 0)))

theorem IsForeignText.solid (h : IsForeignText table list list' cs) (hlist : Lists columns list)
    (hlist' : Lists targets list') : Scan.Solid 0 cs := by
  obtain ⟨f, k, b, b', reference, hf, hk, hb, hb', ⟨r, gap, w, b'', hr, hgap, hw, hb'', rfl⟩, rfl⟩ := h
  have hreference : Scan.Solid 0 (r ++ (gap ++ (w ++ (b'' ++ (['('] ++ list' ++ [')']))))) :=
    (solid_spells hr rfl 0).append ((solid_blanks hgap.2 0).append ((hw.solid 0).append
      ((solid_blanks hb'' 0).append hlist'.solid.parens)))
  have hforeign : Scan.Solid 0 (f ++ ([' '] ++ (k ++ (b ++ (['('] ++ list ++ [')'])))) ++
      (b' ++ (r ++ (gap ++ (w ++ (b'' ++ (['('] ++ list' ++ [')']))))))) :=
    ((solid_spells hf rfl 0).append (Scan.Solid.append (by decide) ((solid_spells hk rfl 0).append
      ((solid_blanks hb 0).append hlist.solid.parens)))).append ((solid_blanks hb' 0).append hreference)
  simpa using hforeign

theorem DefinesForeign.solid (h : DefinesForeign table list list' d) (hlist : Lists columns list)
    (hlist' : Lists targets list') : Scan.Solid 0 d := by
  obtain ⟨lead, naming, cs, trail, hlead, hn, hcs, htrail, rfl⟩ := h
  exact ((solid_blanks hlead 0).append (hn.solid.append (hcs.solid hlist hlist'))).append (solid_blanks htrail 0)

/-! ## Keys of a declared table -/

theorem listText?_several (h : names.length ≠ 1) (list : List Char) :
    listText? names list = if '`' ∈ list then none else some (String.ofList (trimChars list)) := by
  unfold listText?
  split
  · exact absurd rfl h
  · rfl

/-- The keys that a clause gives, by the width of its lists and by whether there are backticks in them. -/
theorem clauseKey?_toList (table : String) (list list' : List Char) (hwidth : columns.length = targets.length) :
    (clauseKey? table columns targets list list').toList =
      if columns.length = 1 then columns.zipWith (⟨·, table, ·⟩) targets
      else if '`' ∈ list ∨ '`' ∈ list' then []
      else [⟨String.ofList (trimChars list), table, String.ofList (trimChars list')⟩] := by
  unfold clauseKey?
  split
  · next hone =>
    obtain ⟨column, rfl⟩ := List.length_eq_one_iff.1 hone
    obtain ⟨target, rfl⟩ := List.length_eq_one_iff.1 (hwidth ▸ hone)
    rfl
  · next hne =>
    rw [listText?_several hne, listText?_several (hwidth ▸ hne)]
    by_cases hlist : '`' ∈ list
    · simp [hlist]
    · by_cases hlist' : '`' ∈ list' <;> simp [hlist, hlist']

theorem Lists.isName (h : Lists names list) : ∀ n ∈ names, IsName isTableChar n := by
  induction h with
  | one h =>
    rintro n hn
    rw [List.mem_singleton.1 hn]
    exact h.isName
  | more h _ ih =>
    intro n hn
    rcases List.mem_cons.1 hn with rfl | hn
    · exact h.isName
    · exact ih n hn

theorem mem_stripBoth {p : Char → Bool} (h : x ∈ cs) (hx : p x = false) : x ∈ stripBoth p cs := by
  have hdrop : ∀ {l : List Char}, x ∈ l → x ∈ l.dropWhile p := by
    intro l hl
    rw [← List.takeWhile_append_dropWhile (p := p) (l := l)] at hl
    rcases List.mem_append.1 hl with hl | hl
    · have := List.mem_takeWhile_imp hl
      rw [hx] at this
      cases this
    · exact hl
  rw [stripBoth, List.mem_reverse]
  exact hdrop (List.mem_reverse.2 (hdrop h))

/-- The text of several names is none of them, since there is a comma in it. -/
theorem Lists.text_not_mem (h : Lists names list) (hne : names.length ≠ 1) : String.ofList (trimChars list) ∉ names := by
  intro hm
  have hcomma : ',' ∈ list := by
    cases h with
    | one => exact absurd rfl hne
    | more => simp
  have hnone := (h.isName _ hm).not_mem (c := ',') rfl
  rw [String.toList_ofList] at hnone
  exact hnone (mem_stripBoth hcomma rfl)

theorem foreignKeys_definesForeign (h : DefinesForeign table list list' d) (hlist : Lists columns list)
    (hlist' : Lists targets list') (owner : String) (before after : List (List Char)) :
    (Statement.mk owner (readings (before ++ d :: after))).foreignKeys =
      (Statement.mk owner (readings before)).foreignKeys ++ (clauseKey? table columns targets list list').toList ++
        (Statement.mk owner (readings after)).foreignKeys := by
  have hclauses : readings (before ++ d :: after) = readings before ++
      ((clauseKey? table columns targets list list').map Clause.foreignKey).getD .other :: readings after := by
    rw [readings, visible_append, visible_cons h.trim_ne_nil, List.map_append, List.map_cons,
      read_definesForeign h hlist hlist']
    rfl
  rw [hclauses]
  cases clauseKey? table columns targets list list' with
  | none => simp [Statement.foreignKeys]
  | some k => simp [Statement.foreignKeys]

/-- The relationships of a document are those of the tables declared before, of the table and of those after it. -/
theorem relationships_at {sql : String} {i : Nat} {e : String × Table} (h : (declared sql)[i]? = some e) :
    (document sql).relationships = ((declared sql).take i).flatMap keysOf ++ keysOf e ++
      ((declared sql).drop (i + 1)).flatMap keysOf := by
  rw [relationships_document]
  conv_lhs => rw [split_at h]
  rw [List.flatMap_append, List.flatMap_cons, List.append_assoc]

/-- What becomes of a foreign key clause, named or not, in the body of a table, whatever else stands there. Its keys
come between those of the definitions before and behind it, and each of them gives a relationship at its place. If the
lists have one name each, the key is the one that is meant. If they have several, there is one key whose columns are the
texts of the lists, or none if there is a backtick in one of them. So the keys are those of the columns, one by one,
exactly if there is one column; and where there are several without backticks, the key has a column that the clause does
not list. The table is that of the document unless a later one has its name. -/
theorem foreign_widths_iff (sql : String) {i : Nat} {owner : List Char} {before after : List (List Char)}
    (hsql : (declarations sql.toList)[i]? = some ⟨owner, [','].intercalate (before ++ d :: after)⟩)
    (hsolid : ∀ e ∈ before ++ after, Scan.Solid 0 e) (hlist : Lists columns list) (hlist' : Lists targets list')
    (hwidth : columns.length = targets.length) (hd : DefinesForeign table list list' d) :
    let keysIn := fun ds => (Declaration.statement ⟨owner, [','].intercalate ds⟩).foreignKeys
    ∃ t keys, (declared sql)[i]? = some (String.ofList owner, t) ∧
      ((∀ e ∈ (declared sql).drop (i + 1), e.1 ≠ String.ofList owner) →
        (document sql).table? (String.ofList owner) = some t) ∧
      t.foreignKeys = keysIn before ++ keys ++ keysIn after ∧
      (document sql).relationships = ((declared sql).take i).flatMap keysOf ++
        t.foreignKeys.map (·.relationship (String.ofList owner)) ++ ((declared sql).drop (i + 1)).flatMap keysOf ∧
      (keys = if columns.length = 1 then columns.zipWith (⟨·, table, ·⟩) targets
        else if '`' ∈ list ∨ '`' ∈ list' then []
        else [⟨String.ofList (trimChars list), table, String.ofList (trimChars list')⟩]) ∧
      (keys = columns.zipWith (⟨·, table, ·⟩) targets ↔ columns.length = 1) ∧
      ((∀ k ∈ keys, k.field ∈ columns) ↔ columns.length = 1 ∨ '`' ∈ list ∨ '`' ∈ list') := by
  intro keysIn
  have hall : ∀ e ∈ before ++ d :: after, Scan.Solid 0 e := by
    intro e he
    rcases List.mem_append.1 he with he | he
    · exact hsolid e (List.mem_append_left _ he)
    · rcases List.mem_cons.1 he with rfl | he
      · exact hd.solid hlist hlist'
      · exact hsolid e (List.mem_append_right _ he)
  have hkeysIn : ∀ {ds : List (List Char)}, (∀ e ∈ ds, Scan.Solid 0 e) →
      keysIn ds = (Statement.mk (String.ofList owner) (readings ds)).foreignKeys := by
    intro ds hds
    show (Statement.mk _ (clauses _)).foreignKeys = _
    rw [clauses_intercalate hds]
  have hdeclared : (declared sql)[i]? =
      some (String.ofList owner, (Statement.mk (String.ofList owner) (readings (before ++ d :: after))).table) := by
    rw [declared_eq, List.getElem?_map, hsql, Option.map_some, Declaration.statement, clauses_intercalate hall]
  have hkeys := clauseKey?_toList table list list' hwidth
  refine ⟨_, _, hdeclared, table?_last hdeclared, ?_, relationships_at hdeclared, hkeys, ?_, ?_⟩
  · rw [hkeysIn fun e he => hsolid e (List.mem_append_left _ he), hkeysIn fun e he => hsolid e (List.mem_append_right _ he)]
    exact foreignKeys_definesForeign hd hlist hlist' _ _ _
  · constructor
    · intro h
      -- There is at most one key, and one for each column.
      have hlength := congrArg List.length h
      rw [List.length_zipWith, ← hwidth, Nat.min_self] at hlength
      have hpos : columns ≠ [] := by cases hlist <;> simp
      have := List.length_pos_iff.2 hpos
      have := Option.length_toList_le (o := clauseKey? table columns targets list list')
      omega
    · intro h
      rw [hkeys, if_pos h]
  · rw [hkeys]
    by_cases hone : columns.length = 1
    · obtain ⟨column, rfl⟩ := List.length_eq_one_iff.1 hone
      obtain ⟨target, rfl⟩ := List.length_eq_one_iff.1 (hwidth ▸ hone)
      simp
    · rw [if_neg hone]
      by_cases htick : '`' ∈ list ∨ '`' ∈ list'
      · simp [htick]
      · have hmem := hlist.text_not_mem hone
        simp [htick, hone, hmem]

/-- A named clause with a name in backticks in one of its lists, and blanks in the other. -/
theorem foreign_widths_iff_named :
    let sql := "CREATE TABLE t (a INT, constraint `fk` foreign key(`a`)\n References u ( x ), b INT);"
    let d := " constraint `fk` foreign key(`a`)\n References u ( x )".toList
    let before := ["a INT".toList]
    let after := [" b INT".toList]
    (declarations sql.toList)[0]? = some ⟨"t".toList, [','].intercalate (before ++ d :: after)⟩ ∧
      (∀ e ∈ before ++ after, Scan.Solid 0 e) ∧ Lists ["a"] "`a`".toList ∧ Lists ["x"] " x ".toList ∧
      DefinesForeign "u" "`a`".toList " x ".toList d ∧
      (∃ t, (document sql).table? "t" = some t ∧ t.foreignKeys = [⟨"a", "u", "x"⟩]) ∧
      (document sql).relationships = [⟨"t", "a", "u", "x"⟩] := by
  intro sql d before after
  have hsql : (declarations sql.toList)[0]? = some ⟨"t".toList, [','].intercalate (before ++ d :: after)⟩ := by
    decide +kernel
  have hsolid : ∀ e ∈ before ++ after, Scan.Solid 0 e := by decide +kernel
  have hlist : Lists ["a"] "`a`".toList :=
    .one ⟨[], quoted "a", [], rfl, ⟨by decide +kernel, .inr rfl⟩, rfl, by decide +kernel⟩
  have hlist' : Lists ["x"] " x ".toList :=
    .one ⟨[' '], "x".toList, [' '], rfl, ⟨by decide +kernel, .inl rfl⟩, rfl, by decide +kernel⟩
  have hreference : IsReference "u" " x ".toList "References u ( x )".toList :=
    ⟨"References".toList, [' '], "u".toList, [' '], by decide +kernel, by decide, ⟨by decide +kernel, .inl rfl⟩, rfl,
      by decide +kernel⟩
  have htext : IsForeignText "u" "`a`".toList " x ".toList "foreign key(`a`)\n References u ( x )".toList :=
    ⟨"foreign".toList, "key".toList, [], ['\n', ' '], _, by decide +kernel, by decide +kernel, rfl, rfl, hreference,
      by decide +kernel⟩
  have hnaming : IsNaming ("constraint".toList ++ ([' '] ++ (quoted "fk" ++ [' ']))) :=
    .named (by decide +kernel) (by decide) ⟨by decide +kernel, .inr rfl⟩ (by decide)
  have hd : DefinesForeign "u" "`a`".toList " x ".toList d :=
    ⟨[' '], _, _, [], rfl, hnaming, htext, rfl, by decide +kernel⟩
  obtain ⟨t, keys, hdeclared, htable, hkeys, hrelationships, hmeant, -⟩ :=
    foreign_widths_iff sql hsql hsolid hlist hlist' rfl hd
  have hlast : (declared sql).drop 1 = [] := by decide +kernel
  have hbefore : (Declaration.statement ⟨"t".toList, [','].intercalate before⟩).foreignKeys = [] := by decide +kernel
  have hafter : (Declaration.statement ⟨"t".toList, [','].intercalate after⟩).foreignKeys = [] := by decide +kernel
  have hone : t.foreignKeys = [⟨"a", "u", "x"⟩] := by
    rw [hkeys, hmeant]
    simp only [hbefore, hafter]
    rfl
  refine ⟨hsql, hsolid, hlist, hlist', hd, ⟨t, htable (by simp [hlast]), hone⟩, ?_⟩
  rw [hrelationships, hone, hlast]
  rfl

/-- Of two columns, one key is read whose column is the text of the list; in backticks, no key is read. -/
theorem composite_keys_misread :
    let plain := "CREATE TABLE t (FOREIGN KEY (a, b) REFERENCES u (x, y));"
    let ticked := "CREATE TABLE t (FOREIGN KEY (`a`, `b`) REFERENCES u (`x`, `y`));"
    (Lists ["a", "b"] "a, b".toList ∧ Lists ["x", "y"] "x, y".toList ∧
      DefinesForeign "u" "a, b".toList "x, y".toList "FOREIGN KEY (a, b) REFERENCES u (x, y)".toList ∧
      (declarations plain.toList)[0]? = some ⟨"t".toList, "FOREIGN KEY (a, b) REFERENCES u (x, y)".toList⟩ ∧
      (document plain).table? "t" = some ⟨[], [⟨"a, b", "u", "x, y"⟩]⟩ ∧
      (document plain).relationships = [⟨"t", "a, b", "u", "x, y"⟩]) ∧
    Lists ["a", "b"] "`a`, `b`".toList ∧ Lists ["x", "y"] "`x`, `y`".toList ∧
      DefinesForeign "u" "`a`, `b`".toList "`x`, `y`".toList "FOREIGN KEY (`a`, `b`) REFERENCES u (`x`, `y`)".toList ∧
      (declarations ticked.toList)[0]? = some ⟨"t".toList, "FOREIGN KEY (`a`, `b`) REFERENCES u (`x`, `y`)".toList⟩ ∧
      (document ticked).table? "t" = some ⟨[], []⟩ ∧ (document ticked).relationships = [] := by
  intro plain ticked
  have hname : ∀ {name : String}, name ∈ ["a", "b", "x", "y"] → IsName isTableChar name := by decide +kernel
  -- Two names with a space behind the comma.
  have hlists : ∀ {a b : String} {w w' cs : List Char}, Writes a w → Writes b w' → cs = w ++ ',' :: ' ' :: w' →
      Lists [a, b] cs := by
    rintro a b w w' cs hw hw' rfl
    exact .more ⟨[], w, [], rfl, hw, rfl, by simp⟩ (.one ⟨[' '], w', [], rfl, hw', rfl, by simp⟩)
  have hdefines : ∀ {list list' d : List Char},
      d = "FOREIGN KEY (".toList ++ (list ++ (") REFERENCES u (".toList ++ (list' ++ [')']))) →
      DefinesForeign "u" list list' d := by
    rintro list list' d rfl
    have hreference : IsReference "u" list'
        ("REFERENCES".toList ++ ([' '] ++ ("u".toList ++ ([' '] ++ '(' :: (list' ++ [')']))))) :=
      ⟨_, _, _, _, by decide +kernel, by decide, ⟨by decide +kernel, .inl rfl⟩, by decide, rfl⟩
    have htext : IsForeignText "u" list list' ("FOREIGN KEY (".toList ++ (list ++ (") REFERENCES u (".toList ++ (list' ++ [')'])))) :=
      ⟨"FOREIGN".toList, "KEY".toList, [' '], [' '], _, by decide +kernel, by decide +kernel, rfl, rfl, hreference, rfl⟩
    exact ⟨[], [], _, [], rfl, .nothing, htext, rfl, by simp⟩
  refine ⟨⟨?_, ?_, hdefines (by decide +kernel), by decide +kernel, by decide +kernel, by decide +kernel⟩, ?_, ?_,
    hdefines (by decide +kernel), by decide +kernel, by decide +kernel, by decide +kernel⟩
  · exact hlists ⟨hname (by decide), .inl rfl⟩ ⟨hname (by decide), .inl rfl⟩ (by decide +kernel)
  · exact hlists ⟨hname (by decide), .inl rfl⟩ ⟨hname (by decide), .inl rfl⟩ (by decide +kernel)
  · exact hlists ⟨hname (by decide), .inr rfl⟩ ⟨hname (by decide), .inr rfl⟩ (by decide +kernel)
  · exact hlists ⟨hname (by decide), .inr rfl⟩ ⟨hname (by decide), .inr rfl⟩ (by decide +kernel)

end SchemaAtlas.Dump
