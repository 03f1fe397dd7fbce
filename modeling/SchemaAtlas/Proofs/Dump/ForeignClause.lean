import SchemaAtlas.Proofs.Dump.Ticked
/-!
# The clause of a foreign key

The clause of a foreign key has two lists of names. Each list is read as one text, which ends at a backtick or at
the closing parenthesis. So a list of one name is read as it is meant, in backticks or not. A list of several names is
read as one name with commas in it; with a backtick anywhere it is not read at all (`columnList?_of_lists`). Then no
key is read from the clause, because no other one starts in it: a key starts with two words and a parenthesis, and a
comma, a backtick or another word comes in between (`foreignKey?_mark`, `foreignKey?_word`).
-/

namespace SchemaAtlas.Dump

open Text

/-! ## Lists of names -/

/-- A name as it is written: as it stands, or in backticks. -/
def Writes (name : String) (cs : List Char) : Prop :=
  IsName isTableChar name ∧ (cs = name.toList ∨ cs = quoted name)

/-- A written name, with any blanks around it. -/
def IsEntry (name : String) (cs : List Char) : Prop :=
  ∃ l w r, l.all isBlank = true ∧ Writes name w ∧ r.all isBlank = true ∧ cs = l ++ (w ++ r)

/-- One name or more, with commas between them. -/
inductive Lists : List String → List Char → Prop
  | one {name : String} {part : List Char} (h : IsEntry name part) : Lists [name] part
  | more {name : String} {names : List String} {part list : List Char} (h : IsEntry name part) (hrest : Lists names list) :
      Lists (name :: names) (part ++ ',' :: list)

variable {name table : String} {names columns targets : List String} {x : Char} {cs w list list' : List Char}

theorem isBlank_of_isTableChar {c : Char} (h : isTableChar c = true) : isBlank c = false :=
  forall_ascii (P := fun c => isTableChar c = true → isBlank c = false) (by decide) (toNat_of_isTableChar h) h

theorem ne_of_isTableChar {c : Char} (hc : isTableChar c = true) (hx : isTableChar x = false) : c ≠ x := by
  rintro rfl
  rw [hc] at hx
  cases hx

theorem not_mem_blanks {l : List Char} (hl : l.all isBlank = true) (hx : isBlank x = false) : x ∉ l :=
  fun hm => ne_of_isBlank (List.all_eq_true.1 hl x hm) hx rfl

theorem Writes.not_mem (h : Writes name cs) (hx : isTableChar x = false) (htick : x ≠ '`') : x ∉ cs := by
  have hname : x ∉ name.toList := h.1.not_mem hx
  rcases h.2 with rfl | rfl
  · exact hname
  · exact not_mem_quoted htick hname

theorem IsEntry.not_mem (h : IsEntry name cs) (hx : isTableChar x = false) (hblank : isBlank x = false) (htick : x ≠ '`') :
    x ∉ cs := by
  obtain ⟨l, w, r, hl, hw, hr, rfl⟩ := h
  simp only [List.mem_append, not_or]
  exact ⟨not_mem_blanks hl hblank, hw.not_mem hx htick, not_mem_blanks hr hblank⟩

/-- A list holds the characters of names, blanks, backticks and commas only. -/
theorem Lists.not_mem (h : Lists names list) (hx : isTableChar x = false) (hblank : isBlank x = false) (htick : x ≠ '`')
    (hcomma : x ≠ ',') : x ∉ list := by
  induction h with
  | one h => exact h.not_mem hx hblank htick
  | more h _ ih =>
    simp only [List.mem_append, List.mem_cons, not_or]
    exact ⟨h.not_mem hx hblank htick, hcomma, ih⟩

/-- The blanks around a written name, which has backticks or not. -/
theorem IsEntry.cases (h : IsEntry name cs) :
    ∃ l r, l.all isBlank = true ∧ r.all isBlank = true ∧
      (cs = l ++ (name.toList ++ r) ∧ '`' ∉ cs ∨ cs = l ++ (quoted name ++ r)) := by
  obtain ⟨l, w, r, hl, ⟨hname, rfl | rfl⟩, hr, rfl⟩ := h
  · refine ⟨l, r, hl, hr, .inl ⟨rfl, ?_⟩⟩
    simp only [List.mem_append, not_or]
    exact ⟨not_mem_blanks hl rfl, hname.not_mem rfl, not_mem_blanks hr rfl⟩
  · exact ⟨l, r, hl, hr, .inr rfl⟩

theorem IsEntry.isName (h : IsEntry name cs) : IsName isTableChar name := by
  obtain ⟨_, _, _, _, hw, -⟩ := h
  exact hw.1

theorem IsName.exists_cons (h : IsName isTableChar name) : ∃ c v, name.toList = c :: v ∧ isTableChar c = true := by
  obtain ⟨c, v, hname⟩ := List.exists_cons_of_ne_nil h.1
  exact ⟨c, v, hname, h.char (by rw [hname]; exact List.mem_cons_self)⟩

/-! ## Reading a list -/

/-- From its first character on, a list is read up to a backtick or a parenthesis. -/
theorem columnList?_run {l r rest : List Char} {c : Char} (hl : l.all isBlank = true) (hc : isBlank c = false)
    (htick : '`' ∉ c :: r) (hparen : ')' ∉ c :: r) (hx : x = '`' ∨ x = ')') :
    columnList? (l ++ (c :: r) ++ x :: rest) = (closeList (x :: rest)).map fun rest => (trimChars (c :: r), rest) := by
  have hstart : (l ++ (c :: r) ++ x :: rest).dropWhile isBlank = c :: r ++ x :: rest := by
    rw [List.append_assoc, List.dropWhile_append_of_pos (List.all_eq_true.1 hl), List.cons_append,
      List.dropWhile_cons_of_neg (by simp [hc])]
  have hne : c ≠ '`' := fun e => htick (by simp [e])
  have hdrop : dropTick (c :: r ++ x :: rest) = c :: r ++ x :: rest := by simp [dropTick, hne]
  have hrun : eatRun (fun y => y != '`' && y != ')') (c :: r ++ x :: rest) = some (c :: r, x :: rest) := by
    refine eatRun_append (List.cons_ne_nil c r) (fun y hy => ?_) ?_
    · have hy' : y ≠ '`' ∧ y ≠ ')' := ⟨fun e => htick (e ▸ hy), fun e => hparen (e ▸ hy)⟩
      simp [hy']
    · rintro y ⟨rfl⟩
      rcases hx with rfl | rfl <;> rfl
  simp only [columnList?, hstart, hdrop, hrun]

/-- A name in backticks is read up to the second of them, and the list has to end there. -/
theorem columnList?_quoted_append {l rest : List Char} (hl : l.all isBlank = true) (h : IsName isTableChar name) :
    columnList? (l ++ (quoted name ++ rest)) = (eat ')' (rest.dropWhile isBlank)).map fun r => (name.toList, r) := by
  have hstart : (l ++ (quoted name ++ rest)).dropWhile isBlank = quoted name ++ rest := by
    rw [List.dropWhile_append_of_pos (List.all_eq_true.1 hl)]
    rfl
  have hrun : eatRun (fun y => y != '`' && y != ')') (dropTick (quoted name ++ rest)) = some (name.toList, '`' :: rest) := by
    refine eatRun_quoted h (fun c hc => ?_) rfl rest
    have htick : c ≠ '`' := ne_of_isTableChar hc rfl
    have hparen : c ≠ ')' := ne_of_isTableChar hc rfl
    simp [htick, hparen]
  have htrim : trimChars name.toList = name.toList := h.stripBoth fun c => isBlank_of_isTableChar
  simp only [columnList?, hstart, hrun, htrim]
  rfl

/-- A list starts with the first name, which is plain where there are no backticks. -/
theorem Lists.start (h : Lists names list) (htick : '`' ∉ list) :
    ∃ l c r, list = l ++ (c :: r) ∧ l.all isBlank = true ∧ isBlank c = false := by
  have hentry : ∀ {name : String} {part : List Char}, IsEntry name part → '`' ∉ part → ∀ rest,
      ∃ l c r, part ++ rest = l ++ (c :: r) ∧ l.all isBlank = true ∧ isBlank c = false := by
    intro name part h htick rest
    obtain ⟨c, v, hname, hc⟩ := h.isName.exists_cons
    obtain ⟨l, r, hl, -, ⟨rfl, -⟩ | rfl⟩ := h.cases
    · exact ⟨l, c, v ++ r ++ rest, by simp [hname], hl, isBlank_of_isTableChar hc⟩
    · exact absurd (by simp [quoted]) htick
  cases h with
  | one h =>
    have hstart := hentry h htick []
    rwa [List.append_nil] at hstart
  | more h _ => exact hentry h (fun hm => htick (List.mem_append_left _ hm)) _

/-- A list without backticks is read as one text. -/
theorem columnList?_plain (h : Lists names list) (htick : '`' ∉ list) (rest : List Char) :
    columnList? (list ++ ')' :: rest) = some (trimChars list, rest) := by
  have hparen : ')' ∉ list := h.not_mem rfl rfl (by decide) (by decide)
  obtain ⟨l, c, r, rfl, hl, hc⟩ := h.start htick
  rw [List.mem_append, not_or] at htick hparen
  have htrim : trimChars (l ++ (c :: r)) = trimChars (c :: r) := by
    have hstrip : trimChars (l ++ (c :: r) ++ []) = trimChars (c :: r) := stripBoth_append hl rfl
    rwa [List.append_nil] at hstrip
  rw [columnList?_run hl hc htick.2 hparen.2 (.inr rfl), htrim]
  rfl

/-- Behind the first backtick of a list a name starts. -/
theorem Lists.first_tick (h : Lists names list) (htick : '`' ∈ list) :
    ∃ a c b, list = a ++ '`' :: c :: b ∧ '`' ∉ a ∧ isTableChar c = true := by
  have hentry : ∀ {name : String} {part : List Char}, IsEntry name part → '`' ∈ part → ∀ rest,
      ∃ a c b, part ++ rest = a ++ '`' :: c :: b ∧ '`' ∉ a ∧ isTableChar c = true := by
    intro name part h htick rest
    obtain ⟨c, v, hname, hc⟩ := h.isName.exists_cons
    obtain ⟨l, r, hl, -, ⟨-, hnone⟩ | rfl⟩ := h.cases
    · exact absurd htick hnone
    · exact ⟨l, c, v ++ '`' :: (r ++ rest), by simp [quoted, hname], not_mem_blanks hl rfl, hc⟩
  induction h with
  | one h =>
    have hfirst := hentry h htick []
    rwa [List.append_nil] at hfirst
  | @more name names part list h _ ih =>
    by_cases hpart : '`' ∈ part
    · exact hentry h hpart _
    · have hlist : '`' ∈ list := by simpa [hpart] using htick
      obtain ⟨a, c, b, rfl, ha, hc⟩ := ih hlist
      exact ⟨part ++ ',' :: a, c, b, by simp, by simp [hpart, ha], hc⟩

/-- A list of several names, with backticks, is not read. -/
theorem columnList?_ticked (h : IsEntry name cs) (hrest : Lists names list) (htick : '`' ∈ cs ++ ',' :: list)
    (rest : List Char) : columnList? (cs ++ ',' :: list ++ ')' :: rest) = none := by
  obtain ⟨l, r, hl, hr, ⟨hcs, hplain⟩ | rfl⟩ := h.cases
  · -- The first name is plain, so the text is read up to the first backtick, and a name follows.
    obtain ⟨a, c, b, hlist, ha, hc⟩ := hrest.first_tick (by simpa [hplain] using htick)
    obtain ⟨x, v, hname, hx⟩ := h.isName.exists_cons
    have htext : cs ++ ',' :: list ++ ')' :: rest = l ++ (x :: (v ++ r ++ ',' :: a)) ++ '`' :: (c :: b ++ ')' :: rest) := by
      simp [hcs, hlist, hname]
    have hclose : closeList ('`' :: (c :: b ++ ')' :: rest)) = none := by
      have hne : c ≠ ')' := ne_of_isTableChar hc rfl
      have hdrop : (c :: b ++ ')' :: rest).dropWhile isBlank = c :: b ++ ')' :: rest :=
        dropWhile_eq_self (by rintro y ⟨rfl⟩; exact isBlank_of_isTableChar hc)
      rw [closeList, hdrop]
      exact if_neg hne
    have hread : ∀ y, y ≠ ',' → y ∉ cs → y ∉ a → y ∉ x :: (v ++ r ++ ',' :: a) := by
      intro y hcomma hpart hy
      rw [hcs, hname] at hpart
      simp only [List.mem_append, List.mem_cons, not_or] at hpart ⊢
      exact ⟨hpart.2.1.1, ⟨hpart.2.1.2, hpart.2.2⟩, hcomma, hy⟩
    have hclosed : ')' ∉ a := fun hm =>
      hrest.not_mem (x := ')') rfl rfl (by decide) (by decide) (hlist ▸ List.mem_append_left _ hm)
    have htick := hread '`' (by decide) hplain ha
    have hparen := hread ')' (by decide) (h.not_mem rfl rfl (by decide)) hclosed
    rw [htext, columnList?_run hl (isBlank_of_isTableChar hx) htick hparen (.inl rfl), hclose]
    rfl
  · -- The first name has backticks, and a comma follows where the list should end.
    rw [List.append_assoc, List.append_assoc, List.append_assoc, columnList?_quoted_append hl h.isName,
      List.dropWhile_append_of_pos (List.all_eq_true.1 hr)]
    rfl

/-- What is read of a list: one name as it stands, several names as one text, and nothing if there are several
with backticks. -/
def listText? (names : List String) (list : List Char) : Option String :=
  match names with
  | [name] => some name
  | _ => if '`' ∈ list then none else some (String.ofList (trimChars list))

theorem columnList?_of_lists (h : Lists names list) (rest : List Char) :
    columnList? (list ++ ')' :: rest) = (listText? names list).map fun text => (text.toList, rest) := by
  cases h with
  | @one name _ h =>
    obtain ⟨l, r, hl, hr, ⟨hlist, hplain⟩ | rfl⟩ := h.cases
    · have htrim : trimChars list = name.toList := by
        rw [hlist, ← List.append_assoc, trimChars, stripBoth_append hl hr]
        exact h.isName.stripBoth fun c => isBlank_of_isTableChar
      rw [columnList?_plain (.one h) hplain, htrim]
      rfl
    · rw [List.append_assoc, List.append_assoc, columnList?_quoted_append hl h.isName,
        List.dropWhile_append_of_pos (List.all_eq_true.1 hr)]
      rfl
  | @more name names part list h hrest =>
    obtain ⟨other, others, rfl⟩ : ∃ other others, names = other :: others := by
      cases hrest with
      | one => exact ⟨_, _, rfl⟩
      | more => exact ⟨_, _, rfl⟩
    show _ = Option.map _ (if _ then none else some _)
    split
    · next htick => rw [columnList?_ticked h hrest htick, Option.map_none]
    · next htick => rw [columnList?_plain (.more h hrest) htick, Option.map_some, String.toList_ofList]

/-! ## Where no key starts -/

section Skip

variable {a b : List Char}

theorem foreignKey?_cons {c : Char} (h : foreignKeyHere? (c :: cs) = none) : foreignKey? (c :: cs) = foreignKey? cs := by
  rw [foreignKey?, h]

theorem foreignKey?_skip (h : foldCase x ≠ 'f') (cs : List Char) : foreignKey? (x :: cs) = foreignKey? cs := by
  have hword : eatWordBlanks ['f', 'o', 'r', 'e', 'i', 'g', 'n'] (x :: cs) = none := by simp [eatWordBlanks, eatWord, h]
  exact foreignKey?_cons (by simp [foreignKeyHere?, hword])

theorem foreignKey?_append (h : ∀ c ∈ a, foldCase c ≠ 'f') : foreignKey? (a ++ b) = foreignKey? b := by
  induction a with
  | nil => rfl
  | cons c a ih =>
    rw [List.cons_append, foreignKey?_skip (h c List.mem_cons_self)]
    exact ih fun x hx => h x (List.mem_cons_of_mem _ hx)

/-- Characters that end what comes before the list of a key. -/
def isListMark (c : Char) : Bool := c == ',' || c == ')' || c == '`'

theorem foreignKeyHere?_mark (ha : '(' ∉ a) (hx : isListMark x = true) : foreignKeyHere? (a ++ x :: b) = none := by
  have hmark : isBlank x = false ∧ foldCase x = x ∧ x ≠ '(' ∧ x ∉ "foreignky".toList := by
    simp only [isListMark, Bool.or_eq_true, beq_iff_eq] at hx
    rcases hx with (rfl | rfl) | rfl <;> decide
  obtain ⟨hblank, hfold, hparen, hletters⟩ := hmark
  have hword : ∀ {w : List Char}, w ⊆ "foreignky".toList → foldCase x ∉ w := fun hw hm => hletters (hw (hfold ▸ hm))
  rw [Option.eq_none_iff_forall_ne_some]
  intro k hk
  simp only [foreignKeyHere?, Option.bind_eq_bind, Option.bind_eq_some_iff] at hk
  obtain ⟨r, hr, r', hr', r'', hr'', -⟩ := hk
  -- All that is read stays in front of the mark, where there is no parenthesis.
  rw [eatWordBlanks_stop b hblank (hword (by decide))] at hr
  obtain ⟨u, hu, rfl⟩ := Option.map_eq_some_iff.1 hr
  rw [eatWord_stop b (hword (by decide))] at hr'
  obtain ⟨u', hu', rfl⟩ := Option.map_eq_some_iff.1 hr'
  rw [dropWhile_stop b hblank, eat_stop b hparen] at hr''
  obtain ⟨u'', hu'', -⟩ := Option.map_eq_some_iff.1 hr''
  have hsuffix : u'.dropWhile isBlank <:+ a :=
    ((List.dropWhile_suffix _).trans (eatWord_suffix hu')).trans (eatWordBlanks_suffix hu)
  rw [eat_eq_some hu''] at hsuffix
  exact ha (hsuffix.subset List.mem_cons_self)

/-- No key starts in front of a mark, unless its list does. -/
theorem foreignKey?_mark (ha : '(' ∉ a) (hx : isListMark x = true) : foreignKey? (a ++ x :: b) = foreignKey? b := by
  induction a with
  | nil => exact foreignKey?_cons (foreignKeyHere?_mark (a := []) List.not_mem_nil hx)
  | cons c a ih =>
    have hhere : foreignKeyHere? (c :: (a ++ x :: b)) = none := foreignKeyHere?_mark ha hx
    rw [List.cons_append, foreignKey?_cons hhere]
    exact ih fun hm => ha (List.mem_cons_of_mem _ hm)

theorem eatBlanks_eq_some {gap r : List Char} (hgap : gap.all isBlank = true) (hx : isBlank x = false)
    (h : eatBlanks (gap ++ x :: b) = some r) : r = x :: b := by
  have hrest : ∀ c, (x :: b).head? = some c → isBlank c = false := by
    rintro c ⟨rfl⟩
    exact hx
  by_cases hne : gap = []
  · subst hne
    simp [eatBlanks, hx] at h
  · rw [eatBlanks_gap ⟨hne, hgap⟩ hrest] at h
    exact (Option.some.inj h).symm

/-- No key starts in a word that the word `KEY` does not follow. -/
theorem foreignKey?_word {gap : List Char} (ha : ∀ c ∈ a, isBlank c = false) (hgap : gap.all isBlank = true)
    (hx : isBlank x = false) (hkey : foldCase x ≠ 'k') (hend : gap = [] → foldCase x ∉ ['f', 'o', 'r', 'e', 'i', 'g', 'n']) :
    foreignKey? (a ++ (gap ++ x :: b)) = foreignKey? (gap ++ x :: b) := by
  have hnext : ∀ r, eatBlanks (gap ++ x :: b) = some r → eatWord ['k', 'e', 'y'] r = none := by
    intro r hr
    rw [eatBlanks_eq_some hgap hx hr]
    simp [eatWord, hkey]
  obtain ⟨y, s, hs, hy⟩ : ∃ y s, gap ++ x :: b = y :: s ∧ foldCase y ∉ ['f', 'o', 'r', 'e', 'i', 'g', 'n'] := by
    cases gap with
    | nil => exact ⟨x, b, rfl, hend rfl⟩
    | cons y gap =>
      have hblank := List.all_eq_true.1 hgap y List.mem_cons_self
      have hletters : ['f', 'o', 'r', 'e', 'i', 'g', 'n'].all (!isBlank ·) = true := rfl
      refine ⟨y, gap ++ x :: b, rfl, fun hm => ?_⟩
      rw [(cases_blank hblank).2] at hm
      have hletter := List.all_eq_true.1 hletters y hm
      rw [hblank] at hletter
      cases hletter
  rw [hs] at hnext ⊢
  induction a with
  | nil => rfl
  | cons c a ih =>
    have hhere : foreignKeyHere? (c :: (a ++ y :: s)) = none := by
      rw [Option.eq_none_iff_forall_ne_some]
      intro k hk
      simp only [foreignKeyHere?, eatWordBlanks, Option.bind_eq_bind, Option.bind_eq_some_iff] at hk
      obtain ⟨r, ⟨u, hu, hr⟩, r', hr', -⟩ := hk
      rw [← List.cons_append, eatWord_stop s hy] at hu
      obtain ⟨v, hv, rfl⟩ := Option.map_eq_some_iff.1 hu
      cases v with
      | nil =>
        rw [hnext r hr] at hr'
        cases hr'
      | cons z v =>
        have hz := ha z ((eatWord_suffix hv).subset List.mem_cons_self)
        simp [eatBlanks, hz] at hr
    rw [List.cons_append, foreignKey?_cons hhere]
    exact ih fun z hz => ha z (List.mem_cons_of_mem _ hz)

/-- The same for a written name. -/
theorem foreignKey?_written {gap : List Char} (h : Writes name w) (hgap : gap.all isBlank = true)
    (hx : isBlank x = false) (hkey : foldCase x ≠ 'k') (hend : gap = [] → foldCase x ∉ ['f', 'o', 'r', 'e', 'i', 'g', 'n']) :
    foreignKey? (w ++ (gap ++ x :: b)) = foreignKey? (gap ++ x :: b) := by
  rcases h.2 with rfl | rfl
  · exact foreignKey?_word (fun c hc => isBlank_of_isTableChar (h.1.char hc)) hgap hx hkey hend
  · have htext : quoted name ++ (gap ++ x :: b) = '`' :: (name.toList ++ '`' :: (gap ++ x :: b)) := by simp [quoted]
    rw [htext, foreignKey?_skip (by decide)]
    exact foreignKey?_mark (h.1.not_mem rfl) rfl

theorem foldCase_ne_of_spells (h : Spells w cs) (hw : w.all Char.isUpper = true) (hx : x ∉ w.map Char.toLower) :
    ∀ c ∈ cs, foldCase c ≠ x := by
  rintro c hc rfl
  rw [(letter_of_toUpper (h.letters hw hc)).2.1, ← h, List.map_map] at hx
  exact hx (List.mem_map_of_mem (f := Char.toLower ∘ Char.toUpper) hc)

theorem foldCase_ne_of_blank {l : List Char} (hl : l.all isBlank = true) : ∀ c ∈ l, foldCase c ≠ 'f' := by
  intro c hc
  have hblank := List.all_eq_true.1 hl c hc
  rw [(cases_blank hblank).2]
  exact ne_of_isBlank hblank rfl

/-- The only F of the word is not followed by an O. -/
theorem foreignKey?_references (h : Spells "REFERENCES".toList w) : foreignKey? (w ++ b) = foreignKey? b := by
  obtain ⟨u, v, rfl, hu, hv⟩ := List.map_eq_append_iff.1 (show w.map Char.toUpper = ['R', 'E'] ++ "FERENCES".toList from h)
  obtain ⟨f, v, rfl, hf, hv⟩ := List.map_eq_cons_iff.1 (show v.map Char.toUpper = 'F' :: "ERENCES".toList from hv)
  obtain ⟨e, v, rfl, he, hv⟩ := List.map_eq_cons_iff.1 (show v.map Char.toUpper = 'E' :: "RENCES".toList from hv)
  have hfold : foldCase e = 'e' := by
    rw [(letter_of_toUpper (by rw [he]; rfl)).2.1, he]
    rfl
  have hword : eatWordBlanks ['f', 'o', 'r', 'e', 'i', 'g', 'n'] (f :: e :: (v ++ b)) = none := by
    simp [eatWordBlanks, eatWord, hfold]
  have hhere : foreignKeyHere? (f :: e :: (v ++ b)) = none := by simp [foreignKeyHere?, hword]
  have hrest : Spells "ERENCES".toList (e :: v) := by
    rw [Spells, List.map_cons, he, hv]
    rfl
  rw [List.append_assoc, foreignKey?_append (foldCase_ne_of_spells (w := ['R', 'E']) hu rfl (by decide))]
  rw [List.cons_append, List.cons_append, foreignKey?_cons hhere, ← List.cons_append]
  exact foreignKey?_append (foldCase_ne_of_spells hrest rfl (by decide))

end Skip

/-! ## The clause of a foreign key -/

/-- `REFERENCES table (list)`. -/
def IsReference (table : String) (list cs : List Char) : Prop :=
  ∃ r gap w b, Spells "REFERENCES".toList r ∧ IsGap gap ∧ Writes table w ∧ b.all isBlank = true ∧
    cs = r ++ (gap ++ (w ++ (b ++ '(' :: (list ++ [')']))))

/-- `FOREIGN KEY (list) REFERENCES table (list')`. The first two words have one space between them. -/
def IsForeignText (table : String) (list list' cs : List Char) : Prop :=
  ∃ f k b b' reference, Spells "FOREIGN".toList f ∧ Spells "KEY".toList k ∧ b.all isBlank = true ∧ b'.all isBlank = true ∧
    IsReference table list' reference ∧ cs = f ++ ([' '] ++ (k ++ (b ++ '(' :: (list ++ ')' :: (b' ++ reference)))))

/-- What may stand in front of it: nothing, or `CONSTRAINT name`. -/
inductive IsNaming : List Char → Prop
  | nothing : IsNaming []
  | named {c gap symbol gap' : List Char} {name : String} (hc : Spells "CONSTRAINT".toList c) (hgap : IsGap gap)
      (hsymbol : Writes name symbol) (hgap' : IsGap gap') : IsNaming (c ++ (gap ++ (symbol ++ gap')))

/-- A definition that is the clause of a foreign key, with blanks around it. -/
def DefinesForeign (table : String) (list list' d : List Char) : Prop :=
  ∃ lead naming cs trail, lead.all isBlank = true ∧ IsNaming naming ∧ IsForeignText table list list' cs ∧
    trail.all isBlank = true ∧ d = lead ++ (naming ++ cs) ++ trail

/-- The key that is read from a clause. -/
def clauseKey? (table : String) (columns targets : List String) (list list' : List Char) : Option ForeignKey :=
  (listText? columns list).bind fun field => (listText? targets list').map fun target => ⟨field, table, target⟩

theorem Writes.head (h : Writes name w) (rest : List Char) : ∀ c, (w ++ rest).head? = some c → isBlank c = false := by
  obtain ⟨c, v, hname, hc⟩ := h.1.exists_cons
  rcases h.2 with rfl | rfl
  · rw [hname]
    rintro x ⟨rfl⟩
    exact isBlank_of_isTableChar hc
  · rintro x ⟨rfl⟩
    rfl

theorem eat_blanks {b : List Char} (hb : b.all isBlank = true) (hx : isBlank x = false) (rest : List Char) :
    eat x ((b ++ x :: rest).dropWhile isBlank) = some rest := by
  rw [List.dropWhile_append_of_pos (List.all_eq_true.1 hb), List.dropWhile_cons_of_neg (by simp [hx])]
  exact if_pos rfl

/-- A table's name is read, and the parenthesis behind it. -/
theorem eatRun_writes {b : List Char} (h : Writes table w) (hb : b.all isBlank = true) (rest : List Char) :
    ∃ r, eatRun (fun c => c != '`' && c != '(' && !isBlank c) (dropTick (w ++ (b ++ '(' :: rest))) = some (table.toList, r) ∧
      eat '(' ((dropTick r).dropWhile isBlank) = some rest := by
  have hopen : eat '(' ((b ++ '(' :: rest).dropWhile isBlank) = some rest := eat_blanks hb rfl rest
  have hchar : ∀ c, isTableChar c = true → (c != '`' && c != '(' && !isBlank c) = true := by
    intro c hc
    have htick : c ≠ '`' := ne_of_isTableChar hc rfl
    have hparen : c ≠ '(' := ne_of_isTableChar hc rfl
    simp [htick, hparen, isBlank_of_isTableChar hc]
  rcases h.2 with rfl | rfl
  · have hstop : ∀ c, (b ++ '(' :: rest).head? = some c → c ≠ '`' ∧ (c != '`' && c != '(' && !isBlank c) = false := by
      intro c hc
      cases b with
      | nil =>
        cases hc
        decide
      | cons y b =>
        cases hc
        have hblank := List.all_eq_true.1 hb c List.mem_cons_self
        exact ⟨ne_of_isBlank hblank rfl, by simp [hblank]⟩
    have htick : ∀ {cs : List Char}, (∀ c, cs.head? = some c → c ≠ '`') → dropTick cs = cs := by
      intro cs hcs
      cases cs with
      | nil => rfl
      | cons c cs => simp [dropTick, hcs c rfl]
    refine ⟨b ++ '(' :: rest, ?_, ?_⟩
    · rw [htick]
      · exact eatRun_append h.1.1 (fun c hc => hchar c (h.1.char hc)) fun c hc => (hstop c hc).2
      · obtain ⟨c, v, hname, hc⟩ := h.1.exists_cons
        rw [hname]
        rintro y ⟨rfl⟩
        exact ne_of_isTableChar hc rfl
    · rw [htick fun c hc => (hstop c hc).1]
      exact hopen
  · exact ⟨'`' :: (b ++ '(' :: rest), eatRun_quoted h.1 hchar rfl _, hopen⟩

theorem foreignKeyHere?_of_isForeignText (h : IsForeignText table list list' cs) (hlist : Lists columns list)
    (hlist' : Lists targets list') : foreignKeyHere? cs = clauseKey? table columns targets list list' := by
  obtain ⟨f, k, b, b', reference, hf, hk, hb, hb', ⟨r, gap, w, b'', hr, hgap, hw, hb'', rfl⟩, rfl⟩ := h
  obtain ⟨rest, htable, htarget⟩ := eatRun_writes hw hb'' (list' ++ [')'])
  have hforeign : eatWordBlanks ['f', 'o', 'r', 'e', 'i', 'g', 'n'] (f ++ ([' '] ++ (k ++ (b ++ '(' :: (list ++ ')' ::
      (b' ++ (r ++ (gap ++ (w ++ (b'' ++ '(' :: (list' ++ [')'])))))))))))  = some (k ++ (b ++ '(' :: (list ++ ')' ::
      (b' ++ (r ++ (gap ++ (w ++ (b'' ++ '(' :: (list' ++ [')']))))))))) :=
    eatWordBlanks_of_spells hf rfl (by decide) (not_blank_of_spells hk rfl (by decide) _)
  have hopen : ∀ rest, eat '(' ((b ++ '(' :: rest).dropWhile isBlank) = some rest := eat_blanks hb rfl
  have hreferences : eatWordBlanks ['r', 'e', 'f', 'e', 'r', 'e', 'n', 'c', 'e', 's'] ((b' ++ (r ++ (gap ++
      (w ++ (b'' ++ '(' :: (list' ++ [')'])))))).dropWhile isBlank) = some (w ++ (b'' ++ '(' :: (list' ++ [')']))) := by
    rw [List.dropWhile_append_of_pos (List.all_eq_true.1 hb'), dropWhile_eq_self (not_blank_of_spells hr rfl (by decide) _)]
    exact eatWordBlanks_of_spells hr rfl hgap (hw.head _)
  have htargets := columnList?_of_lists hlist' []
  have hkey : ∀ rest, eatWord ['k', 'e', 'y'] (k ++ rest) = some rest := eatWord_of_spells hk rfl
  simp only [foreignKeyHere?, hforeign, hkey, hopen, columnList?_of_lists hlist, Option.bind_eq_bind, Option.bind_some]
  unfold clauseKey?
  cases listText? columns list with
  | none => rfl
  | some field =>
    simp only [Option.map_some, Option.bind_some, hreferences, htable, htarget, htargets]
    cases listText? targets list' with
    | none => rfl
    | some target => simp

/-- Behind the first word of a clause no key starts. -/
theorem foreignKey?_behind (h : IsForeignText table list list' (x :: cs)) (hlist : Lists columns list)
    (hlist' : Lists targets list') : foreignKey? cs = none := by
  obtain ⟨f, k, b, b', reference, hf, hk, hb, hb', ⟨r, gap, w, b'', hr, hgap, hw, hb'', rfl⟩, heq⟩ := h
  obtain ⟨y, f, rfl, -, hrest⟩ := List.map_eq_cons_iff.1 (show f.map Char.toUpper = 'F' :: "OREIGN".toList from hf)
  rw [List.cons_append, List.cons.injEq] at heq
  obtain ⟨rfl, rfl⟩ := heq
  have hparen : ∀ {names : List String} {list : List Char}, Lists names list → '(' ∉ list :=
    fun h => h.not_mem rfl rfl (by decide) (by decide)
  have hopen : ∀ cs, foreignKey? ('(' :: cs) = foreignKey? cs := foreignKey?_skip (by decide)
  have hwritten : foreignKey? (w ++ (b'' ++ '(' :: (list' ++ [')']))) = foreignKey? (b'' ++ '(' :: (list' ++ [')'])) :=
    foreignKey?_written hw hb'' rfl (by decide) fun _ => by decide
  calc foreignKey? _
      = foreignKey? (list ++ ')' :: (b' ++ (r ++ (gap ++ (w ++ (b'' ++ '(' :: (list' ++ [')']))))))) := by
        rw [foreignKey?_append (foldCase_ne_of_spells hrest rfl (by decide)),
          foreignKey?_append (foldCase_ne_of_blank (l := [' ']) rfl),
          foreignKey?_append (foldCase_ne_of_spells hk rfl (by decide)), foreignKey?_append (foldCase_ne_of_blank hb), hopen]
    _ = foreignKey? (w ++ (b'' ++ '(' :: (list' ++ [')']))) := by
        rw [foreignKey?_mark (hparen hlist) rfl, foreignKey?_append (foldCase_ne_of_blank hb'), foreignKey?_references hr,
          foreignKey?_append (foldCase_ne_of_blank hgap.2)]
    _ = foreignKey? [] := by
        rw [hwritten, foreignKey?_append (foldCase_ne_of_blank hb''), hopen, foreignKey?_mark (hparen hlist') rfl]
    _ = none := rfl

theorem IsForeignText.head (h : IsForeignText table list list' cs) :
    ∃ c r, cs = c :: r ∧ c.toUpper = 'F' ∧ isBlank c = false := by
  obtain ⟨f, k, b, b', reference, hf, -, -, -, -, rfl⟩ := h
  obtain ⟨c, r, hr, hupper, hhead⟩ := head_of_spells hf rfl (by decide)
    ([' '] ++ (k ++ (b ++ '(' :: (list ++ ')' :: (b' ++ reference)))))
  exact ⟨c, r, hr, (Option.some.inj hhead).symm, (letter_of_toUpper hupper).2.2.1⟩

theorem foreignKey?_of_isForeignText (h : IsForeignText table list list' cs) (hlist : Lists columns list)
    (hlist' : Lists targets list') : foreignKey? cs = clauseKey? table columns targets list list' := by
  have hhere := foreignKeyHere?_of_isForeignText h hlist hlist'
  obtain ⟨c, r, rfl, -⟩ := h.head
  cases hkey : clauseKey? table columns targets list list' with
  | none =>
    rw [hkey] at hhere
    rw [foreignKey?_cons hhere]
    exact foreignKey?_behind h hlist hlist'
  | some k =>
    rw [hkey] at hhere
    exact foreignKey?_of_here hhere

theorem foreignKey?_naming {naming : List Char} (hn : IsNaming naming) (h : IsForeignText table list list' cs) :
    foreignKey? (naming ++ cs) = foreignKey? cs := by
  cases hn with
  | nothing => rfl
  | @named c gap symbol gap' name hc hgap hsymbol hgap' =>
    obtain ⟨x, r, rfl, hx, hblank⟩ := h.head
    have hfold : foldCase x = 'f' := by
      rw [(letter_of_toUpper (by rw [hx]; rfl)).2.1, hx]
      rfl
    have hsymbol : foreignKey? (symbol ++ (gap' ++ x :: r)) = foreignKey? (gap' ++ x :: r) :=
      foreignKey?_written hsymbol hgap'.2 hblank (by rw [hfold]; decide) fun hnil => absurd hnil hgap'.1
    rw [List.append_assoc, List.append_assoc, List.append_assoc]
    rw [foreignKey?_append (foldCase_ne_of_spells hc rfl (by decide)), foreignKey?_append (foldCase_ne_of_blank hgap.2),
      hsymbol, foreignKey?_append (foldCase_ne_of_blank hgap'.2)]

end SchemaAtlas.Dump
