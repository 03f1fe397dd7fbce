import Mathlib.Data.List.TakeWhile
import SchemaAtlas.Proofs.Dump.Alike
import SchemaAtlas.Proofs.Dump.Literals
/-!
# What a literal says

The readers of headers and keys look at the text as it stands, quotations included. What they find
before a literal does not depend on it, since no word of theirs reaches across a quote
(`occursIn_stop`, `keyHere?_stop`, `firstHeader?_stop`). `Quiet` says that they find nothing in its
content, and that the end of the literal is where the scan sees it. Such a content has no part in what
the dump declares (`document_literal`). Others have (`contents_count`).
-/

namespace SchemaAtlas.Dump

open Text

/-! ## Words around a quote -/

section Words

variable {q : Char} {w : List Char}

theorem isPrefixOf_stop (hq : q ∉ w) (a b : List Char) : w.isPrefixOf (a ++ q :: b) = w.isPrefixOf a := by
  induction w generalizing a with
  | nil => rfl
  | cons c w ih =>
    rw [List.mem_cons, not_or] at hq
    cases a with
    | nil =>
      have hc : (c == q) = false := by simpa using Ne.symm hq.1
      rw [List.nil_append, List.isPrefixOf_cons_cons, hc]
      rfl
    | cons x a => rw [List.cons_append, List.isPrefixOf_cons_cons, List.isPrefixOf_cons_cons, ih hq.2]

/-- A word without quotes stands before or behind a quote. -/
theorem occursIn_stop (hq : q ∉ w) (hw : w ≠ []) (a b : List Char) :
    occursIn w (a ++ q :: b) = (occursIn w a || occursIn w b) := by
  induction a with
  | nil =>
    obtain ⟨c, w, rfl⟩ := List.exists_cons_of_ne_nil hw
    have hhere : (c :: w).isPrefixOf (q :: b) = false := isPrefixOf_stop hq [] b
    show ((c :: w).isPrefixOf (q :: b) || occursIn (c :: w) b) = (false || occursIn (c :: w) b)
    rw [hhere]
  | cons x a ih => rw [List.cons_append, occursIn, occursIn, ih, ← List.cons_append, isPrefixOf_stop hq, Bool.or_assoc]

theorem occursIn_literal (hq : q ∉ w) (hw : w ≠ []) (a u b : List Char) :
    occursIn w (a ++ (literal q u ++ b)) = (occursIn w a || (occursIn w u || occursIn w b)) := by
  have htext : a ++ (literal q u ++ b) = a ++ q :: (u ++ q :: b) := by simp [literal]
  rw [htext, occursIn_stop hq hw, occursIn_stop hq hw]

end Words

/-- The quotes of string literals. -/
def IsStringQuote (q : Char) : Prop := q = '\'' ∨ q = '"'

section Quotes

variable {q : Char} (hq : IsStringQuote q)
include hq

theorem IsStringQuote.isQuote : isQuote q = true := by rcases hq with rfl | rfl <;> rfl

theorem IsStringQuote.visible : isBlank q = false := by rcases hq with rfl | rfl <;> rfl

theorem IsStringQuote.not_mem {w : List Char} (hw : '\'' ∉ w ∧ '"' ∉ w) : q ∉ w := by
  rcases hq with rfl | rfl
  · exact hw.1
  · exact hw.2

theorem IsStringQuote.ne {c : Char} (hc : '\'' ≠ c ∧ '"' ≠ c) : q ≠ c := by
  rcases hq with rfl | rfl
  · exact hc.1
  · exact hc.2

theorem IsStringQuote.fold_not_mem {w : List Char} (hw : '\'' ∉ w ∧ '"' ∉ w) : foldCase q ∉ w := by
  have hfold : foldCase q = q := by rcases hq with rfl | rfl <;> rfl
  rw [hfold]
  exact hq.not_mem hw

end Quotes

section Literal

variable {q : Char} (hq : IsStringQuote q)
include hq

theorem upperChars_literal (a u b : List Char) :
    upperChars (a ++ (literal q u ++ b)) = upperChars a ++ (literal q (upperChars u) ++ upperChars b) := by
  have hupper : upperChar q = [q] := by rcases hq with rfl | rfl <;> rfl
  simp [literal, upperChars_append, upperChars_cons, hupper]

theorem typeIsPrimary_literal (a u b : List Char) :
    typeIsPrimary (upperChars (a ++ (literal q u ++ b))) =
      (typeIsPrimary (upperChars a) || (typeIsPrimary (upperChars u) || typeIsPrimary (upperChars b))) := by
  have hkey : q ∉ "PRIMARY KEY".toList := hq.not_mem (by decide +kernel)
  have hauto : q ∉ "AUTO_INCREMENT".toList := hq.not_mem (by decide +kernel)
  rw [upperChars_literal hq, typeIsPrimary, occursIn_literal hkey (by decide +kernel), occursIn_literal hauto (by decide +kernel)]
  simp only [typeIsPrimary]
  grind

theorem foreign_literal (a u b : List Char) :
    occursIn "FOREIGN KEY".toList (upperChars (a ++ (literal q u ++ b))) =
      (occursIn "FOREIGN KEY".toList (upperChars a) ||
        (occursIn "FOREIGN KEY".toList (upperChars u) || occursIn "FOREIGN KEY".toList (upperChars b))) := by
  have hkey : q ∉ "FOREIGN KEY".toList := hq.not_mem (by decide +kernel)
  rw [upperChars_literal hq, occursIn_literal hkey (by decide +kernel)]

end Literal

/-! ## The first word and the name of a column -/

/-- The first word of a clause tells its kind, whatever comes behind the word. -/
theorem isColumn_append {u : List Char} (hhead : ∀ c, u.head? = some c → isBlank c = false)
    (hend : ∃ x ∈ u, isBlank x = true ∨ x = '(') (t : List Char) : isColumn (u ++ t) = isColumn u := by
  obtain ⟨x, hx, hstop⟩ := hend
  have hne : u ≠ [] := List.ne_nil_of_mem hx
  -- The word is cut at blanks and at parentheses, whichever comes first.
  have hword : (u ++ t).takeWhile (fun c => decide ((c != '(') = true ∧ (!isBlank c) = true)) =
      u.takeWhile (fun c => decide ((c != '(') = true ∧ (!isBlank c) = true)) := by
    obtain ⟨a, b, rfl⟩ := List.append_of_mem hx
    have hp : decide ((x != '(') = true ∧ (!isBlank x) = true) = false := by
      rcases hstop with h | h <;> simp [h]
    rw [List.append_assoc, List.cons_append, takeWhile_stop _ hp, takeWhile_stop _ hp]
  have hdrop : (u ++ t).dropWhile isBlank = u ++ t := by
    obtain ⟨c, v, rfl⟩ := List.exists_cons_of_ne_nil hne
    exact dropWhile_eq_self fun y hy => hhead y (by cases hy; rfl)
  have htick : (u ++ t).head? = u.head? := by
    obtain ⟨c, v, rfl⟩ := List.exists_cons_of_ne_nil hne
    rfl
  simp only [isColumn, hdrop, dropWhile_eq_self hhead, htick, List.takeWhile_takeWhile, hword]

theorem isColumn_upperChars_append {a : List Char} (ha : ∀ c, a.head? = some c → isBlank c = false)
    (hend : a.any (fun c => isBlank c || c == '(') = true) (t : List Char) :
    isColumn (upperChars (a ++ t)) = isColumn (upperChars a) := by
  rw [upperChars_append]
  refine isColumn_append ?_ ?_ _
  · intro c hc
    cases a with
    | nil => cases hc
    | cons x a =>
      obtain ⟨y, v, hy⟩ := List.exists_cons_of_ne_nil (upperChar_ne_nil x)
      rw [upperChars_cons, hy] at hc
      cases hc
      exact upperChar_visible (ha x rfl) c (by rw [hy]; exact List.mem_cons_self)
  · obtain ⟨x, hx, hstop⟩ := List.any_eq_true.1 hend
    simp only [Bool.or_eq_true, beq_iff_eq] at hstop
    have hupper : upperChar x = [x] := by
      rcases hstop with h | rfl
      · exact (cases_blank h).1
      · rfl
    exact ⟨x, List.mem_flatMap.2 ⟨x, hx, by rw [hupper]; exact List.mem_singleton_self x⟩, hstop⟩

/-- The name of a column that ends with a given text: a backtick may stand on each side of it. -/
def columnName? (cs : List Char) : Option (List Char) :=
  (eatRun (fun c => c != '`' && !isBlank c) (dropTick cs)).bind fun r => if (dropTick r.2).isEmpty then some r.1 else none

/-- A column is read as the name up to the first blank and the type behind it. -/
theorem column?_split {a : List Char} {x : Char} (ha : ∀ c ∈ a, isBlank c = false) (hx : isBlank x = true) (t : List Char) :
    column? (a ++ x :: t) = (columnName? a).bind fun name =>
      if (t.dropWhile isBlank).isEmpty then none
      else some ⟨String.ofList name, String.ofList (trimChars (t.dropWhile isBlank)),
        typeIsPrimary (upperChars (trimChars (t.dropWhile isBlank)))⟩ := by
  have htick : x ≠ '`' := ne_of_isBlank hx rfl
  have hrun : eatRun (fun c => c != '`' && !isBlank c) (dropTick a ++ x :: t) =
      (eatRun (fun c => c != '`' && !isBlank c) (dropTick a)).map fun r => (r.1, r.2 ++ x :: t) :=
    eatRun_stop t (by simp [hx])
  simp only [column?, columnName?, Option.bind_eq_bind, dropTick_stop t htick, hrun]
  cases hname : eatRun (fun c => c != '`' && !isBlank c) (dropTick a) with
  | none => rfl
  | some r =>
    simp only [Option.map_some, Option.bind_some, dropTick_stop t htick]
    have hsub : dropTick r.2 <:+ a := ((dropTick_suffix r.2).trans (eatRun_suffix hname)).trans (dropTick_suffix a)
    cases hv : dropTick r.2 with
    | nil =>
      rw [List.nil_append, eatBlanks, if_pos hx]
      rfl
    | cons y v =>
      have hy : isBlank y = false := ha y (hsub.subset (by rw [hv]; exact List.mem_cons_self))
      simp [eatBlanks, hy]

/-- A text with a blank in it, up to the first blank and from there on. -/
theorem split_blank {a : List Char} (h : a.any isBlank = true) :
    ∃ b x c, a = b ++ x :: c ∧ (∀ y ∈ b, isBlank y = false) ∧ isBlank x = true := by
  induction a with
  | nil => cases h
  | cons y a ih =>
    cases hy : isBlank y with
    | true => exact ⟨[], y, a, rfl, by simp, hy⟩
    | false =>
      rw [List.any_cons, hy, Bool.false_or] at h
      obtain ⟨b, x, c, rfl, hb, hx⟩ := ih h
      exact ⟨y :: b, x, c, rfl, by simpa [hy] using hb, hx⟩

/-! ## The start of a primary key -/

/-- Reads `PRIMARY KEY (`: the text behind it. -/
def keyHere? (cs : List Char) : Option (List Char) := do
  let cs ← eatWordBlanks ['p', 'r', 'i', 'm', 'a', 'r', 'y'] cs
  let cs ← eatWord ['k', 'e', 'y'] cs
  eat '(' (cs.dropWhile isBlank)

/-- The names of a list: they end at the last parenthesis of the line. -/
def listed? (cs : List Char) : Option (List String) :=
  (beforeLastParen (cs.takeWhile (· != '\n'))).map listedNames

theorem primaryKeyHere?_eq (cs : List Char) : primaryKeyHere? cs = (keyHere? cs).bind listed? := by
  unfold listed?
  simp only [primaryKeyHere?, keyHere?, listedNames, Option.bind_eq_bind, Option.bind_assoc, Option.pure_def, Option.map_eq_bind,
    Function.comp_def]

/-- The texts at which a clause may begin to be a primary key: behind the name of a constraint, which may be read in
two ways, or at its start. -/
def keyStarts (cs : List Char) : List (List Char) :=
  match eatWordBlanks ['c', 'o', 'n', 's', 't', 'r', 'a', 'i', 'n', 't'] cs with
  | none => [cs]
  | some r => (eatTicked r).toList ++ (eatPlain r).toList

theorem primaryKey?_eq (cs : List Char) : primaryKey? cs = (keyStarts cs).findSome? primaryKeyHere? := by
  unfold primaryKey? keyStarts
  cases eatWordBlanks ['c', 'o', 'n', 's', 't', 'r', 'a', 'i', 'n', 't'] cs with
  | none =>
    simp only [List.findSome?_singleton]
  | some r =>
    simp only [Option.bind_eq_bind, List.findSome?_append]
    cases eatTicked r <;> cases eatPlain r <;> simp

/-- Whether a clause begins as a primary key does. -/
def beginsKey (cs : List Char) : Bool := (keyStarts cs).any fun r => (keyHere? r).isSome

/-- Whether a constraint that is named at all is named within a text: a blank follows the name, and backticks are
closed. -/
def isNamed (cs : List Char) : Bool :=
  match eatWordBlanks ['c', 'o', 'n', 's', 't', 'r', 'a', 'i', 'n', 't'] cs with
  | none => true
  | some r => r.any isBlank && (r.head? != some '`' || r.tail.contains '`')

section Keys

variable {q : Char} (hq : IsStringQuote q)
include hq

theorem keyHere?_stop (a t : List Char) : keyHere? (a ++ q :: t) = (keyHere? a).map (· ++ q :: t) := by
  have hblank := hq.visible
  have hprimary : foldCase q ∉ ['p', 'r', 'i', 'm', 'a', 'r', 'y'] := hq.fold_not_mem (by decide)
  have hkey : foldCase q ∉ ['k', 'e', 'y'] := hq.fold_not_mem (by decide)
  have hparen : q ≠ '(' := hq.ne (by decide)
  simp only [keyHere?, Option.bind_eq_bind, eatWordBlanks_stop t hblank hprimary]
  cases eatWordBlanks ['p', 'r', 'i', 'm', 'a', 'r', 'y'] a with
  | none => rfl
  | some r =>
    simp only [Option.map_some, Option.bind_some, eatWord_stop t hkey]
    cases eatWord ['k', 'e', 'y'] r with
    | none => rfl
    | some r => exact (congrArg (eat '(') (dropWhile_stop t hblank)).trans (eat_stop t hparen)

theorem listed?_stop {t : List Char} (ht : ')' ∉ t) (r : List Char) : listed? (r ++ q :: t) = listed? r := by
  have hparen : ')' ∉ q :: t := by
    rw [List.mem_cons, not_or]
    exact ⟨(hq.ne (by decide)).symm, ht⟩
  -- The line may end before the literal or behind it: the last parenthesis comes earlier in any case.
  have hline : beforeLastParen ((r ++ q :: t).takeWhile (· != '\n')) = beforeLastParen (r.takeWhile (· != '\n')) := by
    rw [List.takeWhile_append]
    split
    · next hlength =>
      have hall : r.takeWhile (· != '\n') = r := (List.takeWhile_prefix _).eq_of_length hlength
      rw [hall]
      exact beforeLastParen_append fun hm => hparen (List.takeWhile_subset _ hm)
    · rfl
  rw [listed?, listed?, hline]

theorem primaryKeyHere?_stop {r t : List Char} (h : keyHere? r = none ∨ ')' ∉ t) :
    primaryKeyHere? (r ++ q :: t) = primaryKeyHere? r := by
  rw [primaryKeyHere?_eq, primaryKeyHere?_eq, keyHere?_stop hq]
  cases hk : keyHere? r with
  | none => rfl
  | some v =>
    have ht : ')' ∉ t := h.resolve_left (by simp [hk])
    exact listed?_stop hq ht v

theorem eatPlain_stop {r : List Char} (h : r.any isBlank = true) (t : List Char) :
    eatPlain (r ++ q :: t) = (eatPlain r).map (· ++ q :: t) := by
  have hblank := hq.visible
  obtain ⟨b, x, c, rfl, -, hx⟩ := split_blank h
  have hrun (v : List Char) : eatRun (!isBlank ·) (b ++ x :: v) = (eatRun (!isBlank ·) b).map fun r => (r.1, r.2 ++ x :: v) :=
    eatRun_stop v (by simp [hx])
  simp only [eatPlain, Option.bind_eq_bind, List.append_assoc, List.cons_append, hrun]
  cases eatRun (!isBlank ·) b with
  | none => rfl
  | some r =>
    simp only [Option.map_some, Option.bind_some]
    rw [← List.cons_append, ← List.append_assoc]
    exact eatBlanks_stop t hblank

theorem eatTicked_stop {r : List Char} (hne : r ≠ []) (h : (r.head? != some '`' || r.tail.contains '`') = true) (t : List Char) :
    eatTicked (r ++ q :: t) = (eatTicked r).map (· ++ q :: t) := by
  have hblank := hq.visible
  have htick : q ≠ '`' := hq.ne (by decide)
  obtain ⟨c, r, rfl⟩ := List.exists_cons_of_ne_nil hne
  by_cases hc : c = '`'
  · subst hc
    have hmem : '`' ∈ r := by simpa using h
    have hdrop : (r ++ q :: t).dropWhile (· != '`') = r.dropWhile (· != '`') ++ q :: t := by
      have hsome : ((r.dropWhile (· != '`')).isEmpty) = false := by
        rw [List.isEmpty_eq_false_iff]
        intro hnil
        have := List.dropWhile_eq_nil_iff.1 hnil '`' hmem
        simp at this
      rw [List.dropWhile_append, hsome]
      rfl
    have hname (v : List Char) : eatTicked ('`' :: v) = (eat '`' (v.dropWhile (· != '`'))).bind eatBlanks := rfl
    rw [List.cons_append, hname, hname, hdrop, eat_stop t htick]
    cases eat '`' (r.dropWhile (· != '`')) with
    | none => rfl
    | some v => exact eatBlanks_stop t hblank
  · simp [eatTicked, eat, hc]

theorem keyStarts_stop {a : List Char} (h : isNamed a = true) (t : List Char) :
    keyStarts (a ++ q :: t) = (keyStarts a).map (· ++ q :: t) := by
  have hblank := hq.visible
  have hword : foldCase q ∉ ['c', 'o', 'n', 's', 't', 'r', 'a', 'i', 'n', 't'] := hq.fold_not_mem (by decide)
  unfold isNamed at h
  rw [keyStarts, keyStarts, eatWordBlanks_stop t hblank hword]
  cases hr : eatWordBlanks ['c', 'o', 'n', 's', 't', 'r', 'a', 'i', 'n', 't'] a with
  | none => rfl
  | some r =>
    rw [hr] at h
    simp only [Bool.and_eq_true] at h
    have hne : r ≠ [] := by rintro rfl; cases h.1
    simp only [Option.map_some, eatTicked_stop hq hne h.2, eatPlain_stop hq h.1, List.map_append]
    cases eatTicked r <;> cases eatPlain r <;> rfl

/-- A primary key is read from what stands before a literal, unless a parenthesis is closed in the literal or
behind it. -/
theorem primaryKey?_stop {a t : List Char} (hname : isNamed a = true) (h : beginsKey a = true → ')' ∉ t) :
    primaryKey? (a ++ q :: t) = primaryKey? a := by
  rw [primaryKey?_eq, primaryKey?_eq, keyStarts_stop hq hname, List.findSome?_map, ← List.head?_filterMap,
    ← List.head?_filterMap]
  refine congrArg List.head? (List.filterMap_congr fun r hr => primaryKeyHere?_stop hq ?_)
  cases hk : keyHere? r with
  | none => exact .inl rfl
  | some v => exact .inr (h (List.any_eq_true.2 ⟨r, hr, by rw [hk]; rfl⟩))

end Keys

/-! ## A definition with a literal -/

/-- What a definition is can be told from the text `a` before a literal in it, `b` being the text behind the literal.
A column has its name before the literal. A constraint has its first word and its name there, does not speak of a foreign
key, and closes no parenthesis behind the literal if it begins as a primary key. -/
def Settled (a b : List Char) : Prop :=
  if isColumn (upperChars a) then a.any isBlank = true
  else
    a.any (fun c => isBlank c || c == '(') = true ∧ isNamed a = true ∧
      occursIn "FOREIGN KEY".toList (upperChars a) = false ∧ occursIn "FOREIGN KEY".toList (upperChars b) = false ∧
      (beginsKey a = true → ')' ∉ b)

/-- The content of a literal that says nothing of keys, `a` being the text before the literal: in a column it does not
make the type that of a primary key, in a constraint it does not speak of a foreign key, and closes no parenthesis if the
constraint begins as a primary key. -/
def Inert (a u : List Char) : Prop :=
  if isColumn (upperChars a) then typeIsPrimary (upperChars u) = false
  else occursIn "FOREIGN KEY".toList (upperChars u) = false ∧ (beginsKey a = true → ')' ∉ u)

instance (a b : List Char) : Decidable (Settled a b) := inferInstanceAs (Decidable (if isColumn (upperChars a) then _ else _))

instance (a u : List Char) : Decidable (Inert a u) := inferInstanceAs (Decidable (if isColumn (upperChars a) then _ else _))

/-- Texts that are the same, or differ in a literal only. -/
def SameAround (v v' : List Char) (t t' : String) : Prop :=
  t = t' ∨ ∃ x y, t.toList = x ++ (v ++ y) ∧ t'.toList = x ++ (v' ++ y)

section Reading

variable {q : Char} (hq : IsStringQuote q) {a b : List Char}
include hq

/-- A column with a literal in its type has the same name whatever the literal is. -/
theorem column?_literal (h : a.any isBlank = true) :
    ∃ name? x y, ∀ u, column? (a ++ (literal q u ++ b)) = (name? : Option (List Char)).map fun name =>
      ⟨String.ofList name, String.ofList (x ++ (literal q u ++ y)), typeIsPrimary (upperChars (x ++ (literal q u ++ y)))⟩ := by
  have hblank := hq.visible
  obtain ⟨n, x, c, rfl, hn, hx⟩ := split_blank h
  refine ⟨columnName? n, (c.dropWhile isBlank).dropWhile isBlank, trimEnd b, fun u => ?_⟩
  have hdrop : (c ++ (literal q u ++ b)).dropWhile isBlank = c.dropWhile isBlank ++ (literal q u ++ b) := by
    rw [literal, List.cons_append, dropWhile_stop _ hblank]
  have hne : (c.dropWhile isBlank ++ (literal q u ++ b)).isEmpty = false := by simp [literal]
  rw [List.append_assoc, List.cons_append, column?_split hn hx, hdrop, hne, trimChars_literal hblank]
  cases columnName? n <;> rfl

theorem read_literal {u u' : List Char} (ha : ∀ c, a.head? = some c → isBlank c = false) (hplace : Settled a b)
    (hu : Inert a u) (hu' : Inert a u') :
    (Clause.read (a ++ (literal q u ++ b))).Alike (SameAround (literal q u) (literal q u'))
      (Clause.read (a ++ (literal q u' ++ b))) := by
  unfold Settled at hplace
  unfold Inert at hu hu'
  cases hcol : isColumn (upperChars a) with
  | true =>
    rw [if_pos hcol] at hplace hu hu'
    have hend : a.any (fun c => isBlank c || c == '(') = true := by
      obtain ⟨x, hx, hblank⟩ := List.any_eq_true.1 hplace
      exact List.any_eq_true.2 ⟨x, hx, by rw [hblank]; rfl⟩
    have hkind (v : List Char) := (isColumn_upperChars_append ha hend (literal q v ++ b)).trans hcol
    obtain ⟨name?, x, y, hcolumn⟩ := column?_literal hq (b := b) hplace
    rw [read_of_isColumn (hkind u), read_of_isColumn (hkind u'), hcolumn u, hcolumn u']
    have hfield := hcolumn u
    cases name? with
    | none => exact .other
    | some name =>
      refine .column (column?_name hfield) ⟨⟨rfl, .inr ⟨x, y, String.toList_ofList, String.toList_ofList⟩⟩, ?_⟩
      simp only [typeIsPrimary_literal hq, hu, hu']
  | false =>
    rw [if_neg (Bool.eq_false_iff.1 hcol)] at hplace hu hu'
    obtain ⟨hend, hname, hfa, hfb, hb⟩ := hplace
    have hkind (v : List Char) := (isColumn_upperChars_append ha hend (literal q v ++ b)).trans hcol
    -- The clause is read as a primary key, or as nothing, from the text before the literal.
    have hread {v : List Char} (hv : occursIn "FOREIGN KEY".toList (upperChars v) = false ∧ (beginsKey a = true → ')' ∉ v)) :
        Clause.read (a ++ (literal q v ++ b)) = ((primaryKey? a).map Clause.primaryKey).getD .other := by
      have htext : a ++ (literal q v ++ b) = a ++ q :: (v ++ q :: b) := by simp [literal]
      have hparen (hk : beginsKey a = true) : ')' ∉ v ++ q :: b := by
        rw [List.mem_append, List.mem_cons, not_or, not_or]
        exact ⟨hv.2 hk, (hq.ne (by decide)).symm, hb hk⟩
      have hforeign : occursIn "FOREIGN KEY".toList (upperChars (a ++ (literal q v ++ b))) = false := by
        rw [foreign_literal hq, hfa, hfb, hv.1]
        rfl
      rw [read_of_not_foreign (hkind v) hforeign, htext, primaryKey?_stop hq hname hparen]
    rw [hread hu, hread hu']
    cases primaryKey? a with
    | none => exact .other
    | some ns => exact .primaryKey fun _ _ => Iff.rfl

end Reading

/-! ## A dump with a literal -/

/-- The content `u` of a literal between `a` and `b` has no part in what a dump declares. Where no table is begun, there
is no header in it. In a table its quotes are doubled, and the definition it stands in is settled before it and learns
nothing of keys from it. -/
def Quiet (q : Char) (a b u : List Char) : Prop :=
  match openDeclaration? a with
  | none => firstHeader? u = none
  | some d =>
    (Scan.run {} d.body).quote = none ∧ doubled q u = true ∧
      Settled (definitionStart d.body) (trimEnd (restOfDefinition (Scan.run {} d.body) b)) ∧ Inert (definitionStart d.body) u

theorem firstDeclaration?_unread (cs : List Char) : firstDeclaration? (unread cs) = none := by
  induction cs using declarations.induct with
  | case1 cs h => rwa [unread_of_none h]
  | case2 cs d rest h ih => rwa [unread_of_some h]

section Dumps

variable {q : Char} {a b : List Char} {d : Declaration}

/-- Where a table is begun, a literal becomes part of its body. -/
theorem declarations_literal (hq : isQuote q = true) (hopen : openDeclaration? a = some d)
    (hquote : (Scan.run {} d.body).quote = none) {u : List Char} (hu : doubled q u = true) :
    declarations (a ++ (literal q u ++ b)) = declarations a ++ match closingParen (Scan.run {} d.body) b with
      | none => []
      | some (body, rest) => ⟨d.name, d.body ++ (literal q u ++ body)⟩ :: declarations rest := by
  obtain ⟨h, hh, rfl⟩ := Option.map_eq_some_iff.1 hopen
  have hclosed : closingParen {} h.2 = none := by
    have hnone := firstDeclaration?_unread a
    rw [firstDeclaration?, hh, Option.bind_some, Option.map_eq_none_iff] at hnone
    exact hnone
  have hfirst : firstDeclaration? (unread a ++ (literal q u ++ b)) =
      (closingParen (Scan.run {} h.2) b).map fun r => (⟨h.1, h.2 ++ (literal q u ++ r.1)⟩, r.2) := by
    rw [firstDeclaration?, firstHeader?_append_of_some hh, Option.bind_some,
      closingParen_append (closingParen_eq_none_iff.1 hclosed), closingParen_literal hq hu hquote, Option.map_map, Option.map_map]
    rfl
  rw [declarations_append]
  congr 1
  cases hb : closingParen (Scan.run {} h.2) b with
  | none => exact declarations_of_none (by rw [hfirst, hb]; rfl)
  | some r => exact declarations_of_some (by rw [hfirst, hb]; rfl)

theorem head?_definitionStart (w : List Char) : ∀ c, (definitionStart w).head? = some c → isBlank c = false := by
  intro c hc
  have := List.head?_dropWhile_not isBlank ((pieces {} w).getLastD [])
  rw [definitionStart] at hc
  rw [hc] at this
  simpa using this

/-- The content of a string literal has no part in what a dump declares, as long as it is quiet: two dumps that
differ in such a content have the same tables, fields, flags, foreign keys and relationships in the same order, and their
types differ in the literal only. -/
theorem document_literal (hq : IsStringQuote q) (a b : List Char) {u u' : List Char} (hu : Quiet q a b u)
    (hu' : Quiet q a b u') :
    (document (String.ofList (a ++ (literal q u ++ b)))).Alike (SameAround (literal q u) (literal q u'))
      (document (String.ofList (a ++ (literal q u' ++ b)))) := by
  have hquote := hq.isQuote
  unfold Quiet at hu hu'
  rw [document, document, String.toList_ofList, String.toList_ofList]
  refine ofStatements_alike (statements_of_matches (S := fun p p' =>
    (Clause.read p).Alike (SameAround (literal q u) (literal q u')) (Clause.read p')) (fun _ _ h => h) ?_)
  have hkeep (ps : List (List Char)) : List.Forall₂ (fun p p' =>
      (Clause.read p).Alike (SameAround (literal q u) (literal q u')) (Clause.read p')) ps ps :=
    List.forall₂_same.2 fun p _ => read_alike (fun t => .inl rfl) p
  have hsame (ds : List Declaration) : List.Forall₂ (Declaration.Matches fun p p' =>
      (Clause.read p).Alike (SameAround (literal q u) (literal q u')) (Clause.read p')) ds ds :=
    List.forall₂_same.2 fun d _ => ⟨rfl, hkeep _⟩
  cases hopen : openDeclaration? a with
  | none =>
    -- No table is begun: the search for the next header goes on behind the literal.
    rw [hopen] at hu hu'
    have hskip {v : List Char} (hv : firstHeader? v = none) :
        declarations (a ++ (literal q v ++ b)) = declarations a ++ declarations b := by
      have htext : a ++ (literal q v ++ b) = a ++ q :: (v ++ q :: b) := by simp [literal]
      have hstop : isHeaderStop q = true := by rcases hq with rfl | rfl <;> rfl
      have hparen : q ≠ '(' := hq.ne (by decide)
      rw [htext, declarations_append_stop hstop hparen hopen, declarations_congr (firstHeader?_stop hstop hparen hv b)]
    rw [hskip hu, hskip hu']
    exact hsame _
  | some d =>
    -- A table is begun: the literal belongs to its body, and to one definition of it.
    rw [hopen] at hu hu'
    obtain ⟨hout, hdouble, hplace, hinert⟩ := hu
    obtain ⟨-, hdouble', -, hinert'⟩ := hu'
    rw [declarations_literal hquote hopen hout hdouble, declarations_literal hquote hopen hout hdouble']
    refine List.rel_append (hsame _) ?_
    cases hb : closingParen (Scan.run {} d.body) b with
    | none => exact .nil
    | some r =>
      obtain ⟨body, rest⟩ := r
      obtain ⟨ps, fs, hdefs⟩ := definitions_literal hquote hout hb
      refine .cons ⟨rfl, ?_⟩ (hsame _)
      show List.Forall₂ _ (definitions _) (definitions _)
      rw [hdefs u hdouble, hdefs u' hdouble']
      exact List.rel_append (hkeep ps) (.cons (read_literal hq (head?_definitionStart _) hplace hinert hinert') (hkeep fs))

end Dumps

instance (q : Char) (a b u : List Char) : Decidable (Quiet q a b u) :=
  match h : openDeclaration? a with
  | none => decidable_of_iff (firstHeader? u = none) (by rw [Quiet, h])
  | some d => decidable_of_iff ((Scan.run {} d.body).quote = none ∧ doubled q u = true ∧
      Settled (definitionStart d.body) (trimEnd (restOfDefinition (Scan.run {} d.body) b)) ∧ Inert (definitionStart d.body) u)
      (by rw [Quiet, h])

/-- A comment with a parenthesis, a comma, a doubled quote and a header in it. -/
theorem document_literal_comment :
    let a := "CREATE TABLE t (x INT COMMENT ".toList
    let b := " NOT NULL, PRIMARY KEY (x));".toList
    let u := "it''s), CREATE TABLE evil (y INT);".toList
    Quiet '\'' a b u ∧ Quiet '\'' a b [] ∧
      List.Forall₂ (Catalog.Related (Table.Alike (SameAround (literal '\'' []) (literal '\'' u))))
        [("t", ⟨[⟨"x", "INT COMMENT '' NOT NULL", true⟩], []⟩)]
        (document (String.ofList (a ++ (literal '\'' u ++ b)))).tables.entries := by
  intro a b u
  have hu : Quiet '\'' a b u := by decide +kernel
  have hempty : Quiet '\'' a b [] := by decide +kernel
  have htables : (document (String.ofList (a ++ (literal '\'' [] ++ b)))).tables.entries =
      [("t", ⟨[⟨"x", "INT COMMENT '' NOT NULL", true⟩], []⟩)] := by decide +kernel
  refine ⟨hu, hempty, ?_⟩
  rw [← htables]
  exact (document_literal (.inl rfl) a b hempty hu).tables

/-- Contents that count: a header where no table is begun, the words of a key, a parenthesis behind the list of a
primary key, and a quote with a backslash before it, where the scan takes the literal to end. -/
theorem contents_count :
    (document "INSERT INTO notes VALUES ('CREATE TABLE evil (x INT)');").tableNames = ["evil"] ∧
      (document "CREATE TABLE t (a INT COMMENT 'not the PRIMARY KEY');").table? "t" =
        some ⟨[⟨"a", "INT COMMENT 'not the PRIMARY KEY'", true⟩], []⟩ ∧
      (document "CREATE TABLE t (a INT, PRIMARY KEY (a) COMMENT 'see b');").table? "t" = some ⟨[⟨"a", "INT", true⟩], []⟩ ∧
      (document "CREATE TABLE t (a INT, PRIMARY KEY (a) COMMENT 'see (b)');").table? "t" = some ⟨[⟨"a", "INT", false⟩], []⟩ ∧
      (document "CREATE TABLE t (a INT COMMENT 'its );', b INT);").table? "t" =
        some ⟨[⟨"a", "INT COMMENT 'its );'", false⟩, ⟨"b", "INT", false⟩], []⟩ ∧
      (document "CREATE TABLE t (a INT COMMENT 'it\\'s );', b INT);").table? "t" =
        some ⟨[⟨"a", "INT COMMENT 'it\\'s", false⟩], []⟩ := by
  decide +kernel

end SchemaAtlas.Dump
