import SchemaAtlas.Proofs.Dump.Clauses
/-!
# String literals in a scan

A literal whose quotes are doubled leaves the scan where it was and shows it nothing but quotes
(`run_literal`). So a body ends behind it where it would end without it (`closingParen_literal`), and
it stays within one definition, between the same other definitions whatever the literal is
(`definitions_literal`).
-/

namespace SchemaAtlas.Dump

open Text

/-! ## Literals in a scan -/

/-- A text in which every quote `q` is doubled. -/
def doubled (q : Char) : List Char → Bool
  | [] => true
  | [c] => c != q
  | c :: d :: cs => if c = q then d == q && doubled q cs else doubled q (d :: cs)

/-- A string literal with a given content. -/
def literal (q : Char) (u : List Char) : List Char := q :: (u ++ [q])

section Scanning

variable {q : Char} {u : List Char} {s : Scan}

/-- A content with doubled quotes leaves the scan in the quotation, and shows nothing but quotes. -/
theorem run_doubled (hq : isQuote q = true) (h : doubled q u = true) (n : Int) :
    Scan.run { quote := some q, depth := n } u = { quote := some q, depth := n } ∧
      ∀ c ∈ Scan.outer { quote := some q, depth := n } u, c = q := by
  have hclose : Scan.step { quote := some q, depth := n } q = { depth := n } := by simp [Scan.step]
  have hopen : Scan.step { depth := n } q = { quote := some q, depth := n } := by simp [Scan.step, hq]
  have hquoted : Scan.atTop { quote := some q, depth := n } = false := rfl
  induction u using doubled.induct q with
  | case1 => exact ⟨rfl, by simp [Scan.outer]⟩
  | case2 c =>
    have hc : c ≠ q := by simpa [doubled] using h
    rw [Scan.run_cons, Scan.step_inQuote hc]
    refine ⟨rfl, ?_⟩
    simp [Scan.outer, hquoted]
  | case3 d cs ih =>
    simp only [doubled, if_true, Bool.and_eq_true, beq_iff_eq] at h
    obtain ⟨rfl, h⟩ := h
    -- The first of two quotes closes the quotation, the second one opens it again.
    rw [Scan.run_cons, Scan.run_cons, hclose, hopen]
    refine ⟨(ih h).1, ?_⟩
    rw [Scan.outer, Scan.outer, hquoted, hclose, hopen]
    intro x hx
    rw [if_neg (by decide)] at hx
    split at hx
    · exact (List.mem_cons.1 hx).elim id fun hx => (ih h).2 x hx
    · exact (ih h).2 x hx
  | case4 c d cs hc ih =>
    rw [doubled, if_neg hc] at h
    rw [Scan.run_cons, Scan.step_inQuote hc, Scan.outer, hquoted, Scan.step_inQuote hc]
    exact ih h

/-- Outside of quotations a literal leaves the scan where it was, and shows nothing but quotes. -/
theorem run_literal (hq : isQuote q = true) (h : doubled q u = true) (hs : s.quote = none) :
    s.run (literal q u) = s ∧ ∀ c ∈ s.outer (literal q u), c = q := by
  obtain ⟨_, n⟩ := s
  cases hs
  have hopen : Scan.step { depth := n } q = { quote := some q, depth := n } := by simp [Scan.step, hq]
  obtain ⟨hrun, hout⟩ := run_doubled hq h n
  constructor
  · rw [literal, Scan.run_cons, hopen, Scan.run_append, hrun]
    simp [Scan.run, Scan.step]
  · intro c hc
    rw [literal, Scan.outer, hopen, Scan.outer_append, hrun] at hc
    have hlast : Scan.outer { quote := some q, depth := n } [q] = [] := rfl
    rw [hlast, List.append_nil] at hc
    split at hc
    · exact (List.mem_cons.1 hc).elim id (hout c)
    · exact hout c hc

theorem closingParen_literal (hq : isQuote q = true) (h : doubled q u = true) (hs : s.quote = none) (b : List Char) :
    closingParen s (literal q u ++ b) = (closingParen s b).map fun r => (literal q u ++ r.1, r.2) := by
  obtain ⟨hrun, hout⟩ := run_literal hq h hs
  rw [closingParen_append (fun hm => absurd (hout _ hm) ?_), hrun]
  rintro rfl
  cases hq

theorem pieces_literal (hq : isQuote q = true) (h : doubled q u = true) (hs : s.quote = none) (b : List Char) :
    pieces s (literal q u ++ b) = extendFirst (literal q u) (pieces s b) := by
  obtain ⟨hrun, hout⟩ := run_literal hq h hs
  rw [pieces_append (fun hm => absurd (hout _ hm) ?_), hrun]
  rintro rfl
  cases hq

end Scanning

/-! ## The definition around a literal -/

/-- Pieces with a text added at the end of the last one. -/
theorem pieces_append_pieces (s : Scan) (a : List Char) :
    ∃ ps l, pieces s a = ps ++ [l] ∧ ∀ b, pieces s (a ++ b) = ps ++ extendFirst l (pieces (s.run a) b) := by
  induction a generalizing s with
  | nil => exact ⟨[], [], rfl, fun b => rfl⟩
  | cons c a ih =>
    obtain ⟨ps, l, hl, happend⟩ := ih (s.step c)
    by_cases hc : (s.atTop && c == ',') = true
    · refine ⟨[] :: ps, l, ?_, fun b => ?_⟩
      · rw [pieces, if_pos hc, hl]; rfl
      · rw [List.cons_append, pieces, if_pos hc, happend]; rfl
    · cases ps with
      | nil =>
        refine ⟨[], c :: l, ?_, fun b => ?_⟩
        · rw [pieces, if_neg hc, hl]; rfl
        · rw [List.cons_append, pieces, if_neg hc, happend]; rfl
      | cons p ps =>
        refine ⟨(c :: p) :: ps, l, ?_, fun b => ?_⟩
        · rw [pieces, if_neg hc, hl]; rfl
        · rw [List.cons_append, pieces, if_neg hc, happend]; rfl

/-- The text of a definition that is begun in a text and not ended: from its first character that is no blank. -/
def definitionStart (cs : List Char) : List Char := ((pieces {} cs).getLastD []).dropWhile isBlank

/-- The rest of a definition: the text up to the comma or parenthesis that ends it. -/
def restOfDefinition (s : Scan) : List Char → List Char
  | [] => []
  | c :: cs => if s.atTop && (c == ',' || c == ')') then [] else c :: restOfDefinition (s.step c) cs

/-- A text without the blanks at its end. -/
def trimEnd (cs : List Char) : List Char := (cs.reverse.dropWhile isBlank).reverse

theorem head_pieces {s : Scan} {cs body rest : List Char} (h : closingParen s cs = some (body, rest)) :
    ∃ ps, pieces s body = restOfDefinition s cs :: ps := by
  induction cs generalizing s body with
  | nil => cases h
  | cons c cs ih =>
    rw [closingParen] at h
    split at h
    · next hc =>
      cases h
      have hend : (s.atTop && (c == ',' || c == ')')) = true := by
        simp only [Bool.and_eq_true, Bool.or_eq_true] at hc ⊢
        exact ⟨hc.1, .inr hc.2⟩
      rw [restOfDefinition, if_pos hend]
      exact ⟨[], rfl⟩
    · next hc =>
      obtain ⟨r, hr, he⟩ := Option.map_eq_some_iff.1 h
      cases he
      obtain ⟨ps, hps⟩ := ih hr
      rw [restOfDefinition, pieces]
      by_cases hcomma : (s.atTop && c == ',') = true
      · have hend : (s.atTop && (c == ',' || c == ')')) = true := by
          simp only [Bool.and_eq_true, Bool.or_eq_true] at hcomma ⊢
          exact ⟨hcomma.1, .inl hcomma.2⟩
        rw [if_pos hcomma, if_pos hend]
        exact ⟨_, rfl⟩
      · have hgo : ¬(s.atTop && (c == ',' || c == ')')) = true := by
          simp only [Bool.and_eq_true, Bool.or_eq_true] at hc hcomma ⊢
          rintro ⟨htop, hx | hx⟩
          · exact hcomma ⟨htop, hx⟩
          · exact hc ⟨htop, hx⟩
        rw [if_neg hcomma, if_neg hgo, hps]
        exact ⟨ps, rfl⟩

theorem trimChars_literal {q : Char} (hq : isBlank q = false) (a u b : List Char) :
    trimChars (a ++ (literal q u ++ b)) = a.dropWhile isBlank ++ (literal q u ++ trimEnd b) := by
  have hfront : (a ++ (literal q u ++ b)).dropWhile isBlank = a.dropWhile isBlank ++ (literal q u ++ b) := by
    rw [literal, List.cons_append, dropWhile_stop _ hq]
  have hrev : (a.dropWhile isBlank ++ (literal q u ++ b)).reverse = b.reverse ++ q :: (a.dropWhile isBlank ++ q :: u).reverse := by
    simp [literal]
  rw [trimChars, stripBoth, hfront, hrev, dropWhile_stop _ hq]
  simp [literal, trimEnd]

/-- A definition with a literal in it is found between the same definitions, whatever the literal is. -/
theorem definitions_literal {q : Char} (hq : isQuote q = true) {w b body rest : List Char}
    (hw : (Scan.run {} w).quote = none) (hb : closingParen (Scan.run {} w) b = some (body, rest)) :
    ∃ ps fs, ∀ u, doubled q u = true → definitions (w ++ (literal q u ++ body)) =
      ps ++ (definitionStart w ++ (literal q u ++ trimEnd (restOfDefinition (Scan.run {} w) b))) :: fs := by
  obtain ⟨ps, l, hl, happend⟩ := pieces_append_pieces {} w
  obtain ⟨fs, hfs⟩ := head_pieces hb
  have hblank : isBlank q = false := by
    cases h : isBlank q with
    | false => rfl
    | true => rw [isQuote_blank h] at hq; cases hq
  refine ⟨visible ps, visible fs, fun u hu => ?_⟩
  have htrim := trimChars_literal hblank l u (restOfDefinition (Scan.run {} w) b)
  have hne : trimChars (l ++ (literal q u ++ restOfDefinition (Scan.run {} w) b)) ≠ [] := by
    rw [htrim]
    simp [literal]
  rw [definitions, happend, pieces_literal hq hu hw, hfs, extendFirst_cons, extendFirst_cons, visible_append, visible_cons hne,
    htrim, definitionStart, hl]
  simp

end SchemaAtlas.Dump
