import SchemaAtlas.Proofs.Dump.Declared
/-!
# The declarations of a dump

Reading a dump means to find the name and the body of one table after the other. `declarations`
are these names and bodies, `unread` is the text that is left when no further table is found.

A header holds letters, digits, blanks and backticks only, so whether there is one is decided at
the first character of another kind (`headerName?_stop`). Hence declarations that were found stay
what they are when text is added at the end (`declarations_append`), and no header reaches across
a semicolon: a dump and what follows it are read one after the other (`document_append`).
-/

namespace SchemaAtlas.Dump

open Text

/-! ## Readers that stop at a character -/

section Stop

variable {x : Char} {w a : List Char} {p : Char → Bool} (b : List Char)

theorem dropWhile_stop (hx : p x = false) : (a ++ x :: b).dropWhile p = a.dropWhile p ++ x :: b := by
  induction a with
  | nil => simp [hx]
  | cons c a ih =>
    rw [List.cons_append, List.dropWhile_cons, List.dropWhile_cons, ih]
    split <;> rfl

theorem takeWhile_stop (hx : p x = false) : (a ++ x :: b).takeWhile p = a.takeWhile p := by
  induction a with
  | nil => simp [hx]
  | cons c a ih =>
    rw [List.cons_append, List.takeWhile_cons, List.takeWhile_cons, ih]

theorem eatWord_stop (hx : foldCase x ∉ w) :
    eatWord w (a ++ x :: b) = (eatWord w a).map (· ++ x :: b) := by
  induction w generalizing a with
  | nil => simp [eatWord]
  | cons l w ih =>
    rw [List.mem_cons, not_or] at hx
    cases a with
    | nil => simp [eatWord, hx.1]
    | cons c a =>
      simp only [List.cons_append, eatWord, ih hx.2]
      split <;> rfl

theorem eatBlanks_stop (hx : isBlank x = false) :
    eatBlanks (a ++ x :: b) = (eatBlanks a).map (· ++ x :: b) := by
  cases a with
  | nil => simp [eatBlanks, hx]
  | cons c a =>
    simp only [List.cons_append, eatBlanks, dropWhile_stop b hx]
    split <;> rfl

theorem eatWordBlanks_stop (hx : isBlank x = false) (hw : foldCase x ∉ w) :
    eatWordBlanks w (a ++ x :: b) = (eatWordBlanks w a).map (· ++ x :: b) := by
  simp only [eatWordBlanks, eatWord_stop b hw, Option.bind_eq_bind]
  cases eatWord w a with
  | none => rfl
  | some r => exact eatBlanks_stop b hx

theorem eatRun_stop (hx : p x = false) :
    eatRun p (a ++ x :: b) = (eatRun p a).map fun r => (r.1, r.2 ++ x :: b) := by
  unfold eatRun
  rw [takeWhile_stop b hx, dropWhile_stop b hx]
  cases a.takeWhile p <;> rfl

theorem dropTick_stop (hx : x ≠ '`') : dropTick (a ++ x :: b) = dropTick a ++ x :: b := by
  cases a with
  | nil => simp [dropTick, hx]
  | cons c a =>
    by_cases hc : c = '`'
    · subst hc; rfl
    · simp [dropTick, hc]

theorem eat_stop {c : Char} (hx : x ≠ c) : eat c (a ++ x :: b) = (eat c a).map (· ++ x :: b) := by
  cases a with
  | nil => simp [eat, hx]
  | cons y a =>
    simp only [List.cons_append, eat]
    split <;> rfl

end Stop

/-! ## Where a header ends -/

/-- A character that stands in no header, but for the parenthesis at its end. -/
def isHeaderStop (c : Char) : Bool := !isNameChar c && !isBlank c && c != '`'

/-- A header up to the parenthesis: the table's name and the text from there on. -/
def headerName? (cs : List Char) : Option (List Char × List Char) := do
  let cs ← eatWordBlanks ['c', 'r', 'e', 'a', 't', 'e'] cs
  let cs ← eatWordBlanks ['t', 'a', 'b', 'l', 'e'] cs
  let (name, cs) ← eatRun isNameChar (dropTick (dropIfNotExists cs))
  return (name, (dropTick cs).dropWhile isBlank)

theorem header?_eq (cs : List Char) :
    header? cs = (headerName? cs).bind fun r => (eat '(' r.2).map fun rest => (r.1, rest) := by
  simp only [header?, headerName?, Option.bind_eq_bind, Option.bind_assoc, Option.pure_def,
    Option.bind_some, Option.map_eq_bind, Function.comp_def]

section Header

variable {x : Char} {a : List Char}

theorem foldCase_not_mem (hx : isHeaderStop x = true) {w : List Char} (hw : w.all (fun c => 'a' ≤ c && c ≤ 'z') = true) :
    foldCase x ∉ w := by
  intro hm
  have hletter := List.all_eq_true.1 hw _ hm
  simp only [isHeaderStop, isNameChar, Bool.and_eq_true, Bool.not_eq_true', Bool.or_eq_false_iff] at hx
  rw [hx.1.1.1.1.1] at hletter
  cases hletter

theorem dropIfNotExists_stop (hx : isHeaderStop x = true) (b : List Char) :
    dropIfNotExists (a ++ x :: b) = dropIfNotExists a ++ x :: b := by
  have hblank : isBlank x = false := by
    simp only [isHeaderStop, Bool.and_eq_true, Bool.not_eq_true'] at hx
    exact hx.1.2
  have hstep (w : List Char) (hw : w.all (fun c => 'a' ≤ c && c ≤ 'z') = true) (o : Option (List Char)) :
      (o.map (· ++ x :: b)).bind (eatWordBlanks w) = (o.bind (eatWordBlanks w)).map (· ++ x :: b) := by
    cases o with
    | none => rfl
    | some r => exact eatWordBlanks_stop b hblank (foldCase_not_mem hx hw)
  unfold dropIfNotExists
  simp only [Option.bind_eq_bind, eatWordBlanks_stop b hblank (foldCase_not_mem hx (w := ['i', 'f']) rfl),
    hstep ['n', 'o', 't'] rfl, hstep ['e', 'x', 'i', 's', 't', 's'] rfl]
  cases ((eatWordBlanks ['i', 'f'] a).bind (eatWordBlanks ['n', 'o', 't'])).bind
    (eatWordBlanks ['e', 'x', 'i', 's', 't', 's']) <;> rfl

theorem headerName?_stop (hx : isHeaderStop x = true) (b : List Char) :
    headerName? (a ++ x :: b) = (headerName? a).map fun r => (r.1, r.2 ++ x :: b) := by
  have hclass : isNameChar x = false ∧ isBlank x = false ∧ x ≠ '`' := by
    simpa [isHeaderStop, and_assoc] using hx
  obtain ⟨hname, hblank, htick⟩ := hclass
  simp only [headerName?, Option.bind_eq_bind, eatWordBlanks_stop b hblank (foldCase_not_mem hx (w := ['c', 'r', 'e', 'a', 't', 'e']) rfl)]
  cases eatWordBlanks ['c', 'r', 'e', 'a', 't', 'e'] a with
  | none => rfl
  | some r =>
    simp only [Option.map_some, Option.bind_some, eatWordBlanks_stop b hblank (foldCase_not_mem hx (w := ['t', 'a', 'b', 'l', 'e']) rfl)]
    cases eatWordBlanks ['t', 'a', 'b', 'l', 'e'] r with
    | none => rfl
    | some r =>
      simp only [Option.map_some, Option.bind_some, dropIfNotExists_stop hx, dropTick_stop b htick, eatRun_stop b hname]
      cases eatRun isNameChar (dropTick (dropIfNotExists r)) with
      | none => rfl
      | some r => simp [dropTick_stop b htick, dropWhile_stop b hblank]

end Header

/-! ## What a reader leaves -/

theorem eatWord_suffix {w cs r : List Char} (h : eatWord w cs = some r) : r <:+ cs := by
  induction w generalizing cs with
  | nil => simp_all [eatWord]
  | cons l w ih =>
    cases cs with
    | nil => simp [eatWord] at h
    | cons c cs =>
      simp only [eatWord] at h
      split at h
      · exact (ih h).trans (List.suffix_cons c cs)
      · cases h

theorem eatBlanks_suffix {cs r : List Char} (h : eatBlanks cs = some r) : r <:+ cs := by
  cases cs with
  | nil => simp [eatBlanks] at h
  | cons c cs =>
    simp only [eatBlanks] at h
    split at h
    · cases h
      exact (List.dropWhile_suffix _).trans (List.suffix_cons c cs)
    · cases h

theorem eatWordBlanks_suffix {w cs r : List Char} (h : eatWordBlanks w cs = some r) : r <:+ cs := by
  obtain ⟨m, hm, hr⟩ := Option.bind_eq_some_iff.1 h
  exact (eatBlanks_suffix hr).trans (eatWord_suffix hm)

theorem dropTick_suffix (cs : List Char) : dropTick cs <:+ cs := by
  unfold dropTick
  split
  · exact List.suffix_cons _ _
  · exact List.suffix_refl _

theorem eatRun_suffix {p : Char → Bool} {cs run r : List Char} (h : eatRun p cs = some (run, r)) : r <:+ cs := by
  unfold eatRun at h
  split at h
  · cases h
  · simp only [Option.some.injEq, Prod.mk.injEq] at h
    exact h.2 ▸ List.dropWhile_suffix p

theorem dropIfNotExists_suffix (cs : List Char) : dropIfNotExists cs <:+ cs := by
  unfold dropIfNotExists
  cases h : (eatWordBlanks ['i', 'f'] cs >>= eatWordBlanks ['n', 'o', 't'] >>=
    eatWordBlanks ['e', 'x', 'i', 's', 't', 's']) with
  | none => exact List.suffix_refl _
  | some r =>
    obtain ⟨m, hm, hr⟩ := Option.bind_eq_some_iff.1 h
    obtain ⟨k, hk, hm⟩ := Option.bind_eq_some_iff.1 hm
    exact ((eatWordBlanks_suffix hr).trans (eatWordBlanks_suffix hm)).trans (eatWordBlanks_suffix hk)

theorem eat_eq_some {c : Char} {cs r : List Char} (h : eat c cs = some r) : cs = c :: r := by
  cases cs with
  | nil => cases h
  | cons x cs =>
    simp only [eat] at h
    split at h
    · next hx => cases h; rw [hx]
    · cases h

/-- A header ends with its parenthesis. -/
theorem header?_suffix {cs name r : List Char} (h : header? cs = some (name, r)) : '(' :: r <:+ cs := by
  simp only [header?, Option.bind_eq_bind, Option.bind_eq_some_iff, Option.pure_def,
    Option.some.injEq, Prod.mk.injEq, Prod.exists] at h
  obtain ⟨a, ha, b, hb, n, c, hc, d, hd, _, rfl⟩ := h
  rw [← eat_eq_some hd]
  exact (((((List.dropWhile_suffix _).trans (dropTick_suffix c)).trans (eatRun_suffix hc)).trans
    ((dropTick_suffix _).trans (dropIfNotExists_suffix b))).trans (eatWordBlanks_suffix hb)).trans
    (eatWordBlanks_suffix ha)

theorem firstHeader?_suffix {cs name r : List Char} (h : firstHeader? cs = some (name, r)) : '(' :: r <:+ cs := by
  induction cs with
  | nil => cases h
  | cons c cs ih =>
    rw [firstHeader?] at h
    split at h
    · next hh => cases h; exact header?_suffix hh
    · exact (ih h).trans (List.suffix_cons c cs)

/-! ## Headers in a longer text -/

/-- Whether a header is read is decided at the parenthesis. -/
theorem header?_paren (a b : List Char) :
    header? (a ++ '(' :: b) = (header? (a ++ ['('])).map fun r => (r.1, r.2 ++ b) := by
  rw [header?_eq, header?_eq, headerName?_stop rfl, headerName?_stop rfl]
  cases headerName? a with
  | none => rfl
  | some r =>
    obtain ⟨name, m⟩ := r
    cases m with
    | nil => rfl
    | cons y m =>
      simp only [Option.map_some, Option.bind_some, List.cons_append, eat]
      split <;> simp

theorem header?_append {cs : List Char} (h : '(' ∈ cs) (b : List Char) :
    header? (cs ++ b) = (header? cs).map fun r => (r.1, r.2 ++ b) := by
  obtain ⟨a, c, rfl⟩ := List.append_of_mem h
  rw [List.append_assoc, List.cons_append, header?_paren, header?_paren a c, Option.map_map]
  simp [Function.comp_def]

/-- The first header of a text is the first one also if more text follows. -/
theorem firstHeader?_append_of_some {cs name r : List Char} (h : firstHeader? cs = some (name, r)) (b : List Char) :
    firstHeader? (cs ++ b) = some (name, r ++ b) := by
  induction cs with
  | nil => cases h
  | cons c cs ih =>
    have hparen : '(' ∈ c :: cs := (firstHeader?_suffix h).subset List.mem_cons_self
    have hlong := header?_append hparen b
    rw [firstHeader?] at h
    rw [List.cons_append] at hlong
    rw [List.cons_append, firstHeader?, hlong]
    split at h
    · next hh => cases h; rw [hh]; rfl
    · next hh => rw [hh]; exact ih h

theorem header?_stop {x : Char} (hx : isHeaderStop x = true) (hparen : x ≠ '(') (a b : List Char) :
    header? (a ++ x :: b) = (header? a).map fun r => (r.1, r.2 ++ x :: b) := by
  rw [header?_eq, header?_eq, headerName?_stop hx]
  cases headerName? a with
  | none => rfl
  | some r =>
    simp only [Option.map_some, Option.bind_some, eat_stop b hparen, Option.map_map]
    rfl

/-- Where there is no header up to a character that stands in none, the next header comes behind it. -/
theorem firstHeader?_stop {x : Char} {a : List Char} (hx : isHeaderStop x = true) (hparen : x ≠ '(')
    (h : firstHeader? a = none) (b : List Char) : firstHeader? (a ++ x :: b) = firstHeader? b := by
  induction a with
  | nil =>
    have hnone : header? (x :: b) = none := header?_stop hx hparen [] b
    rw [List.nil_append, firstHeader?, hnone]
  | cons c a ih =>
    have hlong := header?_stop hx hparen (c :: a) b
    rw [firstHeader?] at h
    split at h
    · cases h
    · next hh =>
      rw [List.cons_append] at hlong
      rw [List.cons_append, firstHeader?, hlong, hh]
      exact ih h

/-! ## Declarations -/

/-- A table as it stands in a dump: its name and the text between its parentheses. -/
structure Declaration where
  name : List Char
  body : List Char
deriving DecidableEq, Repr

/-- The statement that a declaration is read as. -/
def Declaration.statement (d : Declaration) : Statement := ⟨String.ofList d.name, clauses d.body⟩

/-- The first declaration of a text, and the text after it. -/
def firstDeclaration? (cs : List Char) : Option (Declaration × List Char) :=
  (firstHeader? cs).bind fun h => (closingParen {} h.2).map fun r => (⟨h.1, r.1⟩, r.2)

theorem firstStatement?_eq (cs : List Char) :
    firstStatement? cs = (firstDeclaration? cs).map fun r => (r.1.statement, r.2) := by
  simp only [firstStatement?, firstDeclaration?, Option.bind_eq_bind, Option.pure_def]
  cases firstHeader? cs with
  | none => rfl
  | some h =>
    simp only [Option.bind_some, Option.map_map]
    cases closingParen {} h.2 <;> rfl

theorem length_of_firstDeclaration? {cs r : List Char} {d : Declaration}
    (h : firstDeclaration? cs = some (d, r)) : r.length < cs.length :=
  length_of_firstStatement? (s := d.statement) (by rw [firstStatement?_eq, h]; rfl)

/-- The declarations of a text, in order. -/
def declarations (cs : List Char) : List Declaration :=
  match _h : firstDeclaration? cs with
  | none => []
  | some (d, rest) => d :: declarations rest
termination_by cs.length
decreasing_by exact length_of_firstDeclaration? _h

/-- The text that is left when no further declaration is found. -/
def unread (cs : List Char) : List Char :=
  match _h : firstDeclaration? cs with
  | none => cs
  | some (_, rest) => unread rest
termination_by cs.length
decreasing_by exact length_of_firstDeclaration? _h

/-- The declaration that is begun in a text and not closed, if there is one: its name and as much
of its body as there is. The reading of the text ends there. -/
def openDeclaration? (cs : List Char) : Option Declaration :=
  (firstHeader? (unread cs)).map fun h => ⟨h.1, h.2⟩

section Declarations

variable {cs rest : List Char} {d : Declaration}

theorem declarations_of_some (h : firstDeclaration? cs = some (d, rest)) :
    declarations cs = d :: declarations rest := by
  rw [declarations]
  split
  · next hn => rw [h] at hn; cases hn
  · next hs => rw [h] at hs; cases hs; rfl

theorem declarations_of_none (h : firstDeclaration? cs = none) : declarations cs = [] := by
  rw [declarations]
  split
  · rfl
  · next hs => rw [h] at hs; cases hs

theorem unread_of_some (h : firstDeclaration? cs = some (d, rest)) : unread cs = unread rest := by
  rw [unread]
  split
  · next hn => rw [h] at hn; cases hn
  · next hs => rw [h] at hs; cases hs; rfl

theorem unread_of_none (h : firstDeclaration? cs = none) : unread cs = cs := by
  rw [unread]
  split
  · rfl
  · next hs => rw [h] at hs; cases hs

theorem statements_eq (cs : List Char) : statements cs = (declarations cs).map Declaration.statement := by
  induction cs using declarations.induct with
  | case1 cs h =>
    rw [declarations_of_none h, statements_of_none (by rw [firstStatement?_eq, h]; rfl)]
    rfl
  | case2 cs d rest h ih =>
    rw [declarations_of_some h, statements_of_some (by rw [firstStatement?_eq, h]; rfl), ih]
    rfl

/-- The declarations of a text depend on its first header only. -/
theorem declarations_congr {cs cs' : List Char} (h : firstHeader? cs = firstHeader? cs') :
    declarations cs = declarations cs' := by
  have hfirst : firstDeclaration? cs = firstDeclaration? cs' := by
    rw [firstDeclaration?, h]
    rfl
  cases hd : firstDeclaration? cs' with
  | none => rw [declarations_of_none hd, declarations_of_none (hfirst.trans hd)]
  | some r => rw [declarations_of_some hd, declarations_of_some (hfirst.trans hd)]

end Declarations

/-! ## Text added at the end -/

theorem closingParen_append_of_some {s : Scan} {cs body rest : List Char}
    (h : closingParen s cs = some (body, rest)) (b : List Char) :
    closingParen s (cs ++ b) = some (body, rest ++ b) := by
  obtain ⟨rfl, hend⟩ := closingParen_eq_some_iff.1 h
  exact closingParen_eq_some_iff.2 ⟨by rw [List.append_assoc, List.cons_append], hend⟩

theorem firstDeclaration?_append {cs rest : List Char} {d : Declaration}
    (h : firstDeclaration? cs = some (d, rest)) (b : List Char) :
    firstDeclaration? (cs ++ b) = some (d, rest ++ b) := by
  obtain ⟨⟨name, r⟩, hh, hd⟩ := Option.bind_eq_some_iff.1 h
  obtain ⟨⟨body, rest'⟩, hc, he⟩ := Option.map_eq_some_iff.1 hd
  cases he
  rw [firstDeclaration?, firstHeader?_append_of_some hh, Option.bind_some, closingParen_append_of_some hc]
  rfl

/-- The declarations of a text stay what they are when more text follows, and reading goes on with
what was left unread. -/
theorem declarations_append (cs b : List Char) :
    declarations (cs ++ b) = declarations cs ++ declarations (unread cs ++ b) := by
  induction cs using declarations.induct with
  | case1 cs h => rw [declarations_of_none h, unread_of_none h, List.nil_append]
  | case2 cs d rest h ih =>
    rw [declarations_of_some h, unread_of_some h, declarations_of_some (firstDeclaration?_append h b), ih,
      List.cons_append]

/-- Behind a text that leaves no declaration open and a character that stands in no header, reading
starts anew. -/
theorem declarations_append_stop {cs : List Char} {x : Char} (hx : isHeaderStop x = true) (hparen : x ≠ '(')
    (h : openDeclaration? cs = none) (b : List Char) :
    declarations (cs ++ x :: b) = declarations cs ++ declarations b := by
  have hnone : firstHeader? (unread cs) = none := Option.map_eq_none_iff.1 h
  rw [declarations_append, declarations_congr (firstHeader?_stop hx hparen hnone b)]

theorem firstDeclaration?_suffix {cs rest : List Char} {d : Declaration} (h : firstDeclaration? cs = some (d, rest)) :
    rest <:+ cs := by
  obtain ⟨⟨name, r⟩, hh, hd⟩ := Option.bind_eq_some_iff.1 h
  obtain ⟨⟨body, rest'⟩, hc, he⟩ := Option.map_eq_some_iff.1 hd
  cases he
  obtain ⟨hr, -⟩ := closingParen_eq_some_iff.1 hc
  have hbody : rest' <:+ r := ⟨body ++ [')'], by rw [List.append_assoc]; exact hr.symm⟩
  exact (hbody.trans (List.suffix_cons '(' r)).trans (firstHeader?_suffix hh)

theorem unread_suffix (cs : List Char) : unread cs <:+ cs := by
  induction cs using declarations.induct with
  | case1 cs h =>
    exact ⟨[], unread_of_none h⟩
  | case2 cs d rest h ih =>
    rw [unread_of_some h]
    exact ih.trans (firstDeclaration?_suffix h)

/-- Behind a text that ends with a semicolon and leaves no declaration open, reading starts anew. -/
theorem declarations_append_semicolon {cs : List Char} (hend : cs.getLast? = some ';')
    (h : openDeclaration? cs = none) (b : List Char) :
    declarations (cs ++ b) = declarations cs ++ declarations b := by
  have hnone : firstHeader? (unread cs) = none := Option.map_eq_none_iff.1 h
  obtain ⟨a, rfl⟩ := List.getLast?_eq_some_iff.1 hend
  rw [declarations_append]
  congr 1
  -- What is left unread ends with the semicolon too, unless nothing is left.
  rcases List.suffix_concat_iff.1 (unread_suffix (a ++ [';'])) with hnil | ⟨u, hu, -⟩
  · rw [hnil, List.nil_append]
  · rw [hu] at hnone ⊢
    have hu : firstHeader? u = none := by
      cases hf : firstHeader? u with
      | none => rfl
      | some r => rw [firstHeader?_append_of_some hf] at hnone; cases hnone
    rw [List.append_assoc, List.singleton_append]
    exact declarations_congr (firstHeader?_stop rfl (by decide) hu b)

/-! ## Dumps one after the other -/

theorem declared_eq (sql : String) :
    declared sql = (declarations sql.toList).map fun d => (String.ofList d.name, d.statement.table) := by
  rw [declared, statements_eq, List.map_map]
  rfl

/-- A dump that ends with a semicolon and closes every table that it begins is read on its own,
whatever follows, be it complete or not. The tables of the two dumps come one after the other, but
a table that is declared again keeps its place and takes the later definition. Their relationships
come one after the other. -/
theorem document_append (s t : String) (hend : s.toList.getLast? = some ';')
    (hclosed : openDeclaration? s.toList = none) :
    (document (s ++ t)).tableNames =
        (document s).tableNames ++ (document t).tableNames.filter (· ∉ (document s).tableNames) ∧
      (∀ n, (document (s ++ t)).table? n = ((document t).table? n).or ((document s).table? n)) ∧
      (document (s ++ t)).relationships = (document s).relationships ++ (document t).relationships ∧
      (document (s ++ t)).revision = 0 := by
  have hdeclared : declared (s ++ t) = declared s ++ declared t := by
    rw [declared_eq, declared_eq, declared_eq, String.toList_append,
      declarations_append_semicolon hend hclosed, List.map_append]
  refine ⟨?_, fun n => ?_, ?_, rfl⟩
  · rw [Document.tableNames, tables_document, hdeclared]
    exact Catalog.names_ofList_append _ _
  · rw [Document.table?, tables_document, hdeclared]
    exact Catalog.get?_ofList_append _ _ n
  · rw [relationships_document, hdeclared, List.flatMap_append, relationships_document, relationships_document]

/-- A dump of two tables, then one that declares the first of them again and breaks off in a third. -/
theorem document_append_truncated :
    let s := "CREATE TABLE a (x INT, FOREIGN KEY (x) REFERENCES b (y)) COMMENT='(';\nCREATE TABLE b (y INT);"
    let t := "\nCREATE TABLE c (w INT); CREATE TABLE a (z TEXT); CREATE TABLE d (v INT, u"
    (s.toList.getLast? = some ';' ∧ openDeclaration? s.toList = none) ∧
      (document (s ++ t)).tableNames = ["a", "b", "c"] ∧
      (document (s ++ t)).table? "a" = some ⟨[⟨"z", "TEXT", false⟩], []⟩ ∧
      (document (s ++ t)).relationships = [⟨"a", "x", "b", "y"⟩] := by
  intro s t
  have hend : s.toList.getLast? = some ';' := by decide +kernel
  have hclosed : openDeclaration? s.toList = none := by decide +kernel
  obtain ⟨hnames, htables, hrelationships, -⟩ := document_append s t hend hclosed
  refine ⟨⟨hend, hclosed⟩, hnames.trans ?_, (htables "a").trans ?_, hrelationships.trans ?_⟩
  · decide +kernel
  · decide +kernel
  · decide +kernel

end SchemaAtlas.Dump
