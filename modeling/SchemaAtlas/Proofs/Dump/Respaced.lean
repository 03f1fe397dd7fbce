import Mathlib.Data.List.TakeWhile
import SchemaAtlas.Proofs.Dump.Spacing
/-!
# A dump with other blanks

Readers of definitions go along with squeezing. So tables, fields and types do not depend on which
blanks stand between words, but the keys of a definition may: its words are looked for with one space
between them, the list of a primary key ends with its line, and the columns of a foreign key are read
with the blanks between them. `KeysPlain` says that a definition does not meet these cases, and
`document_respaced` says that nothing else counts.
-/

namespace SchemaAtlas.Dump

open Text

/-! ## Columns of squeezed definitions -/

/-- A name with every run of blanks made one space. -/
def squeezeName (n : String) : String := String.ofList (squeeze n.toList)

theorem squeezeName_eq_self {n : String} (h : IsColumnName n) : squeezeName n = n := by
  rw [squeezeName, squeeze_eq_self h, String.ofList_toList]

/-- A name without blanks is found in a list exactly if it is found in the squeezed list. -/
theorem mem_map_squeezeName {n : String} (hn : IsColumnName n) {ns : List String} : n ∈ ns.map squeezeName ↔ n ∈ ns := by
  rw [List.mem_map]
  constructor
  · rintro ⟨m, hm, rfl⟩
    have heq : squeeze m.toList = (squeezeName m).toList := (String.toList_ofList).symm
    rw [eq_of_squeeze hn] at heq
    rwa [← String.toList_inj.1 heq]
  · exact fun h => ⟨n, h, squeezeName_eq_self hn⟩

theorem isColumn_squeeze (u : List Char) : isColumn (squeeze u) = isColumn u := by
  have hhead : ((squeeze u).head? == some '`') = (u.head? == some '`') := by
    cases u with
    | nil => rfl
    | cons c u =>
      cases h : isBlank c with
      | true => simp [squeeze_blank h, ne_of_isBlank h (x := '`') rfl]
      | false => rw [squeeze_visible h]; rfl
  have hfirst : ((squeeze u).dropWhile isBlank).takeWhile (!isBlank ·) = (u.dropWhile isBlank).takeWhile (!isBlank ·) := by
    rw [dropWhile_squeeze, takeWhile_squeeze_visible fun c hc => by simp [hc]]
  simp only [isColumn, hhead, hfirst]

theorem column?_squeeze (cs : List Char) : column? (squeeze cs) = (column? cs).map fun f =>
    ⟨f.name, squeezeName f.type, typeIsPrimary (upperChars (squeeze f.type.toList))⟩ := by
  have hp : ∀ c, isBlank c = true → (c != '`' && !isBlank c) = false := fun c hc => by simp [hc]
  simp only [column?, Option.bind_eq_bind, dropTick_squeeze, eatRun_squeeze_visible hp]
  cases eatRun (fun c => c != '`' && !isBlank c) (dropTick cs) with
  | none => rfl
  | some r =>
    simp only [Option.map_some, Option.bind_some, dropTick_squeeze, eatBlanks_squeeze]
    cases eatBlanks (dropTick r.2) with
    | none => rfl
    | some type =>
      simp only [Option.map_some, Option.bind_some, trimChars_squeeze]
      cases type with
      | nil => rfl
      | cons x type =>
        have hne : (squeeze (x :: type)).isEmpty = false :=
          List.isEmpty_eq_false_iff.2 fun h => List.cons_ne_nil _ _ (squeeze_eq_nil_iff.1 h)
        rw [hne]
        simp [squeezeName]

/-! ## Keys of squeezed definitions -/

theorem closeList_squeeze (cs : List Char) : closeList (squeeze cs) = (closeList cs).map squeeze := by
  have hother {x : Char} (hx : x ≠ '`') (r : List Char) : closeList (x :: r) = eat ')' (x :: r) := by
    simp [closeList, hx]
  cases cs with
  | nil => rfl
  | cons x cs =>
    cases h : isBlank x with
    | true =>
      have hspace : squeeze (x :: cs) = ' ' :: squeezeFrom true cs := squeeze_blank h
      rw [hother (ne_of_isBlank h rfl), ← eat_squeeze rfl, hspace, hother (by decide)]
    | false =>
      have hsqueeze : squeeze (x :: cs) = x :: squeeze cs := squeeze_visible h
      by_cases hx : x = '`'
      · subst hx
        rw [hsqueeze]
        show eat ')' ((squeeze cs).dropWhile isBlank) = (eat ')' (cs.dropWhile isBlank)).map squeeze
        rw [dropWhile_squeeze, eat_squeeze rfl]
      · rw [hother hx, ← eat_squeeze rfl, hsqueeze, hother hx]

theorem length_dropWhile_lt_iff (cs : List Char) :
    (cs.dropWhile isBlank).length < cs.length ↔ ∃ c, cs.head? = some c ∧ isBlank c = true := by
  cases cs with
  | nil => simp
  | cons c cs =>
    rw [List.dropWhile_cons]
    split
    · next h =>
      have := length_dropWhile_le isBlank cs
      exact ⟨fun _ => ⟨c, rfl, h⟩, fun _ => by rw [List.length_cons]; omega⟩
    · next h =>
      refine ⟨fun hlt => absurd hlt (Nat.lt_irrefl _), ?_⟩
      rintro ⟨x, hx, hblank⟩
      cases hx
      exact absurd hblank h

theorem columnList?_squeeze (cs : List Char) :
    columnList? (squeeze cs) = (columnList? cs).map fun r => (squeeze r.1, squeeze r.2) := by
  have hp : ∀ c, isBlank c = true → (c != '`' && c != ')') = true := fun c hc => by
    simp [ne_of_isBlank hc (x := '`') rfl, ne_of_isBlank hc (x := ')') rfl]
  have hlength : ((squeeze cs).dropWhile isBlank).length < (squeeze cs).length ↔ (cs.dropWhile isBlank).length < cs.length := by
    rw [length_dropWhile_lt_iff, length_dropWhile_lt_iff]
    cases cs with
    | nil => rfl
    | cons c cs =>
      cases h : isBlank c with
      | true => simp [squeeze_blank h, h, show isBlank ' ' = true from rfl]
      | false => simp [squeeze_visible h]
  simp only [columnList?, hlength]
  rw [dropWhile_squeeze, dropTick_squeeze, eatRun_squeeze hp]
  cases eatRun (fun c => c != '`' && c != ')') (dropTick (cs.dropWhile isBlank)) with
  | none =>
    simp only [Option.map_none, eat_squeeze (c := ')') rfl]
    split
    · cases eat ')' (dropTick (cs.dropWhile isBlank)) <;> rfl
    · rfl
  | some r =>
    simp only [Option.map_some, closeList_squeeze, trimChars_squeeze]
    cases closeList r.2 <;> rfl

/-- A foreign key with the names of its columns squeezed. A table's name has no blank in it. -/
def squeezeKey (k : ForeignKey) : ForeignKey := ⟨squeezeName k.field, k.referencesTable, squeezeName k.referencesField⟩

theorem foreignKeyHere?_squeeze (cs : List Char) : foreignKeyHere? (squeeze cs) = (foreignKeyHere? cs).map squeezeKey := by
  have hp : ∀ c, isBlank c = true → (c != '`' && c != '(' && !isBlank c) = false := fun c hc => by simp [hc]
  simp only [foreignKeyHere?, Option.bind_eq_bind, eatWordBlanks_squeeze (w := ['f', 'o', 'r', 'e', 'i', 'g', 'n']) rfl]
  cases eatWordBlanks ['f', 'o', 'r', 'e', 'i', 'g', 'n'] cs with
  | none => rfl
  | some r =>
    simp only [Option.map_some, Option.bind_some, eatWord_squeeze (w := ['k', 'e', 'y']) rfl]
    cases eatWord ['k', 'e', 'y'] r with
    | none => rfl
    | some r =>
      simp only [Option.map_some, Option.bind_some, dropWhile_squeeze, eat_squeeze (c := '(') rfl]
      cases eat '(' (r.dropWhile isBlank) with
      | none => rfl
      | some r =>
        simp only [Option.map_some, Option.bind_some, columnList?_squeeze]
        cases columnList? r with
        | none => rfl
        | some r =>
          simp only [Option.map_some, Option.bind_some, dropWhile_squeeze,
            eatWordBlanks_squeeze (w := ['r', 'e', 'f', 'e', 'r', 'e', 'n', 'c', 'e', 's']) rfl]
          cases eatWordBlanks ['r', 'e', 'f', 'e', 'r', 'e', 'n', 'c', 'e', 's'] (r.2.dropWhile isBlank) with
          | none => rfl
          | some v =>
            simp only [Option.map_some, Option.bind_some, dropTick_squeeze, eatRun_squeeze_visible hp]
            cases eatRun (fun c => c != '`' && c != '(' && !isBlank c) (dropTick v) with
            | none => rfl
            | some v =>
              simp only [Option.map_some, Option.bind_some, dropTick_squeeze, dropWhile_squeeze, eat_squeeze (c := '(') rfl]
              cases eat '(' ((dropTick v.2).dropWhile isBlank) with
              | none => rfl
              | some u =>
                simp only [Option.map_some, Option.bind_some, columnList?_squeeze]
                cases columnList? u with
                | none => rfl
                | some u => simp [squeezeKey, squeezeName]

theorem foreignKey?_blank {c : Char} (h : isBlank c = true) (cs : List Char) : foreignKey? (c :: cs) = foreignKey? cs := by
  have hc : foldCase c ≠ 'f' := by
    rw [(cases_blank h).2]
    exact ne_of_isBlank h rfl
  have hnone : foreignKeyHere? (c :: cs) = none := by simp [foreignKeyHere?, eatWordBlanks, eatWord, hc]
  rw [foreignKey?, hnone]

theorem foreignKey?_squeezeFrom (b : Bool) (cs : List Char) : foreignKey? (squeezeFrom b cs) = (foreignKey? cs).map squeezeKey := by
  induction cs generalizing b with
  | nil => rfl
  | cons c cs ih =>
    cases h : isBlank c with
    | true =>
      rw [squeezeFrom, if_pos h, foreignKey?_blank h]
      split
      · exact ih true
      · rw [foreignKey?_blank (by decide), ih]
    | false =>
      have hhere := foreignKeyHere?_squeeze (c :: cs)
      rw [squeeze_visible h] at hhere
      rw [squeezeFrom_visible h, foreignKey?, foreignKey?, hhere]
      cases foreignKeyHere? (c :: cs) with
      | none => exact ih false
      | some k => rfl

theorem beforeLastParen_squeeze (cs : List Char) : beforeLastParen (squeeze cs) = (beforeLastParen cs).map squeeze := by
  have hp : ∀ c, isBlank c = true → (c != ')') = true := fun c hc => by simp [ne_of_isBlank hc (x := ')') rfl]
  rw [beforeLastParen, beforeLastParen, ← squeeze_reverse, squeeze, dropWhile_squeezeFrom hp]
  cases h : cs.reverse.dropWhile (· != ')') with
  | nil => rfl
  | cons x r =>
    have hx : x = ')' := by
      have := List.head?_dropWhile_not (· != ')') cs.reverse
      rw [h] at this
      simpa using this
    subst hx
    rw [squeeze_visible (by decide)]
    simp [squeeze_reverse]

theorem commaParts_squeezeFrom (b : Bool) (cs : List Char) :
    commaParts (squeezeFrom b cs) = squeezePieces b (commaParts cs) := by
  induction cs generalizing b with
  | nil => rfl
  | cons c cs ih =>
    have hne := commaParts_ne_nil cs
    cases h : isBlank c with
    | true =>
      rw [commaParts_cons, if_neg (ne_of_isBlank h rfl), squeezePieces_extendHead_blank h hne, squeezeFrom, if_pos h]
      split
      · exact ih true
      · rw [commaParts_cons, if_neg (by decide), ih]
    | false =>
      rw [squeezeFrom_visible h, commaParts_cons, commaParts_cons, squeeze, ih, squeezePieces_false]
      split
      · rfl
      · rw [squeezePieces_extendHead_visible h hne]

/-- Whether the text behind an opening parenthesis stands on one line. -/
def OneLine (cs : List Char) : Prop := ∀ r, '(' :: r <:+ cs → '\n' ∉ r

theorem OneLine.of_suffix {cs r : List Char} (h : OneLine cs) (hr : r <:+ cs) : OneLine r := fun v hv => h v (hv.trans hr)

theorem oneLine_of_not_mem {cs : List Char} (h : '\n' ∉ cs.dropWhile (· != '(')) : OneLine cs := by
  rintro r ⟨a, rfl⟩ hm
  refine h ?_
  rw [dropWhile_stop r (by decide)]
  exact List.mem_append_right _ (List.mem_cons_of_mem _ hm)

theorem primaryKeyHere?_squeeze {cs : List Char} (h : OneLine cs) :
    primaryKeyHere? (squeeze cs) = (primaryKeyHere? cs).map (·.map squeezeName) := by
  have hstrip (c : List Char) : stripBoth (· == '`') (trimChars (squeeze c)) = squeeze (stripBoth (· == '`') (trimChars c)) := by
    rw [trimChars_squeeze]
    exact stripBoth_squeeze (dropWhile_squeeze_visible fun x hx => by simp [ne_of_isBlank hx (x := '`') rfl]) _
  simp only [primaryKeyHere?, Option.bind_eq_bind, eatWordBlanks_squeeze (w := ['p', 'r', 'i', 'm', 'a', 'r', 'y']) rfl]
  cases ha : eatWordBlanks ['p', 'r', 'i', 'm', 'a', 'r', 'y'] cs with
  | none => rfl
  | some a =>
    simp only [Option.map_some, Option.bind_some, eatWord_squeeze (w := ['k', 'e', 'y']) rfl]
    cases hb : eatWord ['k', 'e', 'y'] a with
    | none => rfl
    | some b =>
      simp only [Option.map_some, Option.bind_some, dropWhile_squeeze, eat_squeeze (c := '(') rfl]
      cases hr : eat '(' (b.dropWhile isBlank) with
      | none => rfl
      | some r =>
        have hsuffix : '(' :: r <:+ cs := by
          rw [← eat_eq_some hr]
          exact ((List.dropWhile_suffix _).trans (eatWord_suffix hb)).trans (eatWordBlanks_suffix ha)
        -- The list stands on one line, and squeezing leaves no line end either.
        have hall {v : List Char} (hv : '\n' ∉ v) : v.takeWhile (· != '\n') = v :=
          List.takeWhile_eq_self_iff.2 fun x hx => bne_iff_ne.2 fun e => hv (e ▸ hx)
        have hsqueezed : '\n' ∉ squeeze r := not_mem_squeezeFrom rfl (by decide) false r
        simp only [Option.map_some, Option.bind_some, hall (h r hsuffix), hall hsqueezed, beforeLastParen_squeeze]
        cases beforeLastParen r with
        | none => rfl
        | some v =>
          have hparts : commaParts (squeeze v) = (commaParts v).map squeeze := by
            rw [squeeze, commaParts_squeezeFrom, squeezePieces_false]
          simp [hparts, hstrip, squeezeName, Function.comp_def]

theorem eatTicked_squeeze (cs : List Char) : eatTicked (squeeze cs) = (eatTicked cs).map squeeze := by
  have hp : ∀ c, isBlank c = true → (c != '`') = true := fun c hc => by simp [ne_of_isBlank hc (x := '`') rfl]
  simp only [eatTicked, Option.bind_eq_bind, eat_squeeze (c := '`') rfl]
  cases eat '`' cs with
  | none => rfl
  | some r =>
    have hdrop : (squeeze r).dropWhile (· != '`') = squeeze (r.dropWhile (· != '`')) := dropWhile_squeezeFrom hp false r
    simp only [Option.map_some, Option.bind_some, hdrop, eat_squeeze (c := '`') rfl]
    cases eat '`' (r.dropWhile (· != '`')) with
    | none => rfl
    | some v => exact eatBlanks_squeeze v

theorem eatPlain_squeeze (cs : List Char) : eatPlain (squeeze cs) = (eatPlain cs).map squeeze := by
  have hp : ∀ c, isBlank c = true → (!isBlank c) = false := fun c hc => by simp [hc]
  simp only [eatPlain, Option.bind_eq_bind, eatRun_squeeze_visible hp]
  cases eatRun (!isBlank ·) cs with
  | none => rfl
  | some r => exact eatBlanks_squeeze r.2

theorem eatTicked_suffix {cs r : List Char} (h : eatTicked cs = some r) : r <:+ cs := by
  simp only [eatTicked, Option.bind_eq_bind, Option.bind_eq_some_iff] at h
  obtain ⟨a, ha, b, hb, hr⟩ := h
  have hquote : a <:+ cs := by
    rw [eat_eq_some ha]
    exact List.suffix_cons _ _
  have hrest : b <:+ a := by
    have hdrop := List.dropWhile_suffix (l := a) (· != '`')
    rw [eat_eq_some hb] at hdrop
    exact (List.suffix_cons _ _).trans hdrop
  exact ((eatBlanks_suffix hr).trans hrest).trans hquote

theorem eatPlain_suffix {cs r : List Char} (h : eatPlain cs = some r) : r <:+ cs := by
  simp only [eatPlain, Option.bind_eq_bind, Option.bind_eq_some_iff, Prod.exists] at h
  obtain ⟨run, a, ha, hr⟩ := h
  exact (eatBlanks_suffix hr).trans (eatRun_suffix ha)

/-- A primary key whose list stands on one line is found with its names squeezed. -/
theorem primaryKey?_squeeze {cs : List Char} (h : OneLine cs) :
    primaryKey? (squeeze cs) = (primaryKey? cs).map (·.map squeezeName) := by
  have hkey {o : Option (List Char)} (ho : ∀ r, o = some r → r <:+ cs) :
      (o.map squeeze).bind primaryKeyHere? = (o.bind primaryKeyHere?).map (·.map squeezeName) := by
    cases o with
    | none => rfl
    | some r => exact primaryKeyHere?_squeeze (h.of_suffix (ho r rfl))
  rw [primaryKey?, primaryKey?, eatWordBlanks_squeeze rfl]
  cases hc : eatWordBlanks ['c', 'o', 'n', 's', 't', 'r', 'a', 'i', 'n', 't'] cs with
  | none => exact primaryKeyHere?_squeeze h
  | some r =>
    have hr := eatWordBlanks_suffix hc
    simp only [Option.map_some, Option.bind_eq_bind, eatTicked_squeeze, eatPlain_squeeze,
      hkey fun v hv => (eatTicked_suffix hv).trans hr, hkey fun v hv => (eatPlain_suffix hv).trans hr]
    cases (eatTicked r).bind primaryKeyHere? <;> rfl

/-! ## Definitions with other blanks -/

/-- Texts that differ in the blanks between their words only. -/
def SameWords (s t : String) : Prop := squeeze s.toList = squeeze t.toList

/-- A definition whose keys do not depend on which blanks stand in it. The tests for the words of a key look for one
space: they find the words in a column's type, or in a constraint, also if it is squeezed, or in neither. The columns
of a foreign key are read with the blanks between them: there are none. The list of a primary key ends with its
line: it has one line. -/
def KeysPlain (p : List Char) : Prop :=
  if isColumn (upperChars p) then
    ∀ f ∈ column? p, typeIsPrimary (upperChars (squeeze f.type.toList)) = f.isPrimary
  else
    occursIn "FOREIGN KEY".toList (upperChars (squeeze p)) = occursIn "FOREIGN KEY".toList (upperChars p) ∧
      if occursIn "FOREIGN KEY".toList (upperChars p) then
        ∀ k ∈ foreignKey? p, IsColumnName k.field ∧ IsColumnName k.referencesField
      else (primaryKey? p).isSome ∨ (primaryKey? (squeeze p)).isSome → '\n' ∉ p.dropWhile (· != '(')

instance (p : List Char) : Decidable (KeysPlain p) := inferInstanceAs (Decidable (if isColumn (upperChars p) then _ else _))

section Definitions

variable {p p' : List Char}

theorem isColumn_of_squeeze (h : squeeze p = squeeze p') : isColumn (upperChars p) = isColumn (upperChars p') := by
  rw [← isColumn_squeeze, ← upperChars_squeeze, h, upperChars_squeeze, isColumn_squeeze]

/-- Columns that differ in blanks only have the same name, and types that differ in blanks only. -/
theorem column?_of_squeeze (h : squeeze p = squeeze p') :
    Option.Rel (Field.Outline SameWords) (column? p) (column? p') := by
  have hcolumn := column?_squeeze p
  rw [h, column?_squeeze] at hcolumn
  cases hf : column? p with
  | none =>
    rw [hf, Option.map_none, Option.map_eq_none_iff] at hcolumn
    rw [hcolumn]
    exact .none
  | some f =>
    rw [hf, Option.map_some, Option.map_eq_some_iff] at hcolumn
    obtain ⟨g, hg, heq⟩ := hcolumn
    rw [hg]
    simp only [Field.mk.injEq, squeezeName, String.ofList_inj] at heq
    exact .some ⟨heq.1.symm, heq.2.1.symm⟩

theorem column?_read_of_not_isColumn (h : isColumn (upperChars p) = false) : (Clause.read p).column? = none := by
  cases hf : occursIn "FOREIGN KEY".toList (upperChars p) with
  | true =>
    rw [read_of_foreign h hf]
    cases foreignKey? p <;> rfl
  | false =>
    rw [read_of_not_foreign h hf]
    cases primaryKey? p <;> rfl

theorem read_outline (h : squeeze p = squeeze p') : (Clause.read p).Outline SameWords (Clause.read p') := by
  have hkind := isColumn_of_squeeze h
  cases hp : isColumn (upperChars p) with
  | true =>
    have hcolumn := column?_of_squeeze h
    rw [read_of_isColumn hp, read_of_isColumn (hkind.symm.trans hp)]
    generalize column? p = o at hcolumn
    generalize column? p' = o' at hcolumn
    cases hcolumn with
    | some hfg => exact .some hfg
    | none => exact .none
  | false =>
    rw [Clause.Outline, column?_read_of_not_isColumn hp, column?_read_of_not_isColumn (hkind.symm.trans hp)]
    exact .none

theorem column?_of_keysPlain (h : squeeze p = squeeze p')
    (hp : ∀ f ∈ column? p, typeIsPrimary (upperChars (squeeze f.type.toList)) = f.isPrimary)
    (hp' : ∀ f ∈ column? p', typeIsPrimary (upperChars (squeeze f.type.toList)) = f.isPrimary) :
    Option.Rel (fun f g => IsColumnName f.name ∧ f.Alike SameWords g) (column? p) (column? p') := by
  have hcolumn := column?_of_squeeze h
  have hname (f : Field) (hf : f ∈ column? p) : IsColumnName f.name := column?_name hf
  generalize column? p = o at hcolumn hp hname
  generalize column? p' = o' at hcolumn hp'
  cases hcolumn with
  | none => exact .none
  | @some f g hfg =>
    refine .some ⟨hname f rfl, hfg, ?_⟩
    rw [← hp f rfl, ← hp' g rfl, hfg.2]

theorem foreignKey?_of_keysPlain (h : ∀ k ∈ foreignKey? p, IsColumnName k.field ∧ IsColumnName k.referencesField) :
    foreignKey? (squeeze p) = foreignKey? p := by
  rw [squeeze, foreignKey?_squeezeFrom]
  cases hk : foreignKey? p with
  | none => rfl
  | some k =>
    obtain ⟨hfield, htarget⟩ := h k hk
    rw [Option.map_some, squeezeKey, squeezeName_eq_self hfield, squeezeName_eq_self htarget]

theorem primaryKey?_of_keysPlain
    (h : (primaryKey? p).isSome ∨ (primaryKey? (squeeze p)).isSome → '\n' ∉ p.dropWhile (· != '(')) :
    primaryKey? (squeeze p) = (primaryKey? p).map (·.map squeezeName) := by
  by_cases hsome : (primaryKey? p).isSome ∨ (primaryKey? (squeeze p)).isSome
  · exact primaryKey?_squeeze (oneLine_of_not_mem (h hsome))
  · simp only [not_or, Option.not_isSome_iff_eq_none] at hsome
    rw [hsome.1, hsome.2]
    rfl

/-- Definitions that differ in blanks only, and whose keys do not depend on them, declare the same. -/
theorem read_alike_of_keysPlain (h : squeeze p = squeeze p') (hp : KeysPlain p) (hp' : KeysPlain p') :
    (Clause.read p).Alike SameWords (Clause.read p') := by
  have hkind := isColumn_of_squeeze h
  unfold KeysPlain at hp hp'
  rw [← hkind] at hp'
  cases hcol : isColumn (upperChars p) with
  | true =>
    rw [if_pos hcol] at hp hp'
    have hcolumn := column?_of_keysPlain h hp hp'
    rw [read_of_isColumn hcol, read_of_isColumn (hkind.symm.trans hcol)]
    generalize column? p = o at hcolumn
    generalize column? p' = o' at hcolumn
    cases hcolumn with
    | some hfg => exact .column hfg.1 hfg.2
    | none => exact .other
  | false =>
    rw [if_neg (Bool.eq_false_iff.1 hcol)] at hp hp'
    have hforeign : occursIn "FOREIGN KEY".toList (upperChars p) = occursIn "FOREIGN KEY".toList (upperChars p') := by
      rw [← hp.1, ← hp'.1, h]
    rw [← hforeign] at hp'
    cases hf : occursIn "FOREIGN KEY".toList (upperChars p) with
    | true =>
      rw [if_pos hf] at hp hp'
      rw [read_of_foreign hcol hf, read_of_foreign (hkind.symm.trans hcol) (hforeign.symm.trans hf),
        ← foreignKey?_of_keysPlain hp.2, ← foreignKey?_of_keysPlain hp'.2, h]
      cases foreignKey? (squeeze p') with
      | none => exact .other
      | some k => exact .foreignKey k
    | false =>
      rw [if_neg (Bool.eq_false_iff.1 hf)] at hp hp'
      rw [read_of_not_foreign hcol hf, read_of_not_foreign (hkind.symm.trans hcol) (hforeign.symm.trans hf)]
      have hkeys : (primaryKey? p).map (·.map squeezeName) = (primaryKey? p').map (·.map squeezeName) := by
        rw [← primaryKey?_of_keysPlain hp.2, ← primaryKey?_of_keysPlain hp'.2, h]
      cases hns : primaryKey? p with
      | none =>
        rw [hns, Option.map_none, eq_comm, Option.map_eq_none_iff] at hkeys
        rw [hkeys]
        exact .other
      | some ns =>
        rw [hns, Option.map_some, eq_comm, Option.map_eq_some_iff] at hkeys
        obtain ⟨ms, hms, heq⟩ := hkeys
        rw [hms]
        refine .primaryKey fun n hn => ?_
        rw [← mem_map_squeezeName hn, ← heq, mem_map_squeezeName hn]

end Definitions

/-! ## Dumps with other blanks -/

theorem forall₂_of_map_eq {α β : Type} {f : α → β} {as bs : List α} (h : as.map f = bs.map f) :
    List.Forall₂ (fun a b => f a = f b) as bs := by
  rw [← List.forall₂_eq_eq_eq, List.forall₂_map_left_iff, List.forall₂_map_right_iff] at h
  exact h

theorem declarations_of_squeeze {cs cs' : List Char} (h : squeeze cs = squeeze cs') :
    List.Forall₂ (Declaration.Matches fun p p' => squeeze p = squeeze p') (declarations cs) (declarations cs') := by
  have hmap : (declarations cs).map Declaration.squeezed = (declarations cs').map Declaration.squeezed := by
    rw [← declarations_squeeze, ← declarations_squeeze, h]
  refine (forall₂_of_map_eq hmap).imp fun d d' hd => ?_
  simp only [Declaration.squeezed, Declaration.mk.injEq] at hd
  refine ⟨hd.1, forall₂_of_map_eq ?_⟩
  rw [← definitions_squeeze, ← definitions_squeeze, hd.2]

/-- A run of blanks in a dump is replaced by another. The tables and their order, the fields and their order stay, and
types change in blanks only. If the definition that changes has keys which do not depend on its blanks, then flags,
foreign keys and relationships stay too. -/
theorem document_respaced (a b : String) {r r' : String} (hr : IsGap r.toList) (hr' : IsGap r'.toList) :
    (document (a ++ r ++ b)).Outline SameWords (document (a ++ r' ++ b)) ∧
      (List.Forall₂ (Declaration.Matches fun p p' => p = p' ∨ KeysPlain p ∧ KeysPlain p')
          (declarations (a ++ r ++ b).toList) (declarations (a ++ r' ++ b).toList) →
        (document (a ++ r ++ b)).Alike SameWords (document (a ++ r' ++ b))) := by
  have hwords : squeeze (a ++ r ++ b).toList = squeeze (a ++ r' ++ b).toList := by
    simp only [String.toList_append]
    exact squeeze_replace hr hr' _ _
  have hsame := declarations_of_squeeze hwords
  refine ⟨ofStatements_outline (statements_of_matches (fun p p' => read_outline) hsame), fun hplain => ?_⟩
  -- Definitions that stay as they are need no condition: only one of them changes.
  refine ofStatements_alike (statements_of_matches (S := fun p p' => squeeze p = squeeze p' ∧
    (p = p' ∨ KeysPlain p ∧ KeysPlain p')) ?_ ?_)
  · rintro p p' ⟨h, rfl | ⟨hp, hp'⟩⟩
    · exact read_alike (R := SameWords) (fun _ => rfl) p
    · exact read_alike_of_keysPlain h hp hp'
  · exact hsame.mp (fun d d' hd hd' => ⟨hd.1, hd.2.mp (fun p p' h h' => ⟨h, h'⟩) hd'.2⟩) hplain

/-- The words of a primary key are put on two lines. -/
theorem document_respaced_key :
    let a := "CREATE TABLE t (x INT, y INT, constraint `pk` PRIMARY"
    let b := "KEY (x, y), FOREIGN KEY (y) REFERENCES u (z));"
    IsGap "\n\t".toList ∧
      (document (a ++ "\n\t" ++ b)).relationships = [⟨"t", "y", "u", "z"⟩] ∧
      List.Forall₂ (Catalog.Related (Table.Alike SameWords)) [("t", ⟨[⟨"x", "INT", true⟩, ⟨"y", "INT", true⟩], [⟨"y", "u", "z"⟩]⟩)]
        (document (a ++ "\n\t" ++ b)).tables.entries := by
  intro a b
  have hplain : List.Forall₂ (Declaration.Matches fun p p' => p = p' ∨ KeysPlain p ∧ KeysPlain p')
      (declarations (a ++ " " ++ b).toList) (declarations (a ++ "\n\t" ++ b).toList) := by
    unfold Declaration.Matches
    decide +kernel
  have hspace : IsGap " ".toList := by decide
  have hbreak : IsGap "\n\t".toList := by decide
  have halike := (document_respaced a b hspace hbreak).2 hplain
  refine ⟨hbreak, halike.relationships.symm.trans (by decide +kernel), ?_⟩
  have htables : (document (a ++ " " ++ b)).tables.entries =
      [("t", ⟨[⟨"x", "INT", true⟩, ⟨"y", "INT", true⟩], [⟨"y", "u", "z"⟩]⟩)] := by decide +kernel
  rw [← htables]
  exact halike.tables

/-- Blanks that count: a line end or two spaces between the words of a key, a line end in the list of a primary key and
any blank in that of a foreign key. -/
theorem blanks_count :
    (document "CREATE TABLE t (x INT PRIMARY KEY);").table? "t" = some ⟨[⟨"x", "INT PRIMARY KEY", true⟩], []⟩ ∧
      (document "CREATE TABLE t (x INT PRIMARY\nKEY);").table? "t" = some ⟨[⟨"x", "INT PRIMARY\nKEY", false⟩], []⟩ ∧
      (document "CREATE TABLE t (x INT, PRIMARY KEY (y, x));").table? "t" = some ⟨[⟨"x", "INT", true⟩], []⟩ ∧
      (document "CREATE TABLE t (x INT, PRIMARY KEY (y,\nx));").table? "t" = some ⟨[⟨"x", "INT", false⟩], []⟩ ∧
      (document "CREATE TABLE t (FOREIGN KEY (x) REFERENCES u (y));").relationships = [⟨"t", "x", "u", "y"⟩] ∧
      (document "CREATE TABLE t (FOREIGN  KEY (x) REFERENCES u (y));").relationships = [] ∧
      (document "CREATE TABLE t (FOREIGN KEY (x, y) REFERENCES u (z));").relationships = [⟨"t", "x, y", "u", "z"⟩] ∧
      (document "CREATE TABLE t (FOREIGN KEY (x,\ty) REFERENCES u (z));").relationships = [⟨"t", "x,\ty", "u", "z"⟩] := by
  decide +kernel

end SchemaAtlas.Dump
