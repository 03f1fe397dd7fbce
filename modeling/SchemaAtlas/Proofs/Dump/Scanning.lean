import Mathlib.Data.List.Forall2
import SchemaAtlas.Dump.Statement
import SchemaAtlas.Proofs.Text.Trim
/-!
# Scanning a body line by line

`Scan.outer` collects what a scan meets at the top level. A part of a text that shows no closing
parenthesis there is passed over in the search for the end of a body (`closingParen_append`), so a
body ends at the first one that is met there (`closingParen_eq_some_iff`). A part that shows no comma
there stays in one piece (`pieces_append`).

A text is solid when it shows neither and leaves the scan as it was. Quoted names are solid, so
is what stands between parentheses, and solid lines with a comma between them are read back one
by one (`clauses_bodyText`).
-/

namespace SchemaAtlas.Dump

open Text

/-- What holds of texts put together from texts of which it holds, holds of a list with separators. -/
theorem intercalate_closed {P : List Char → Prop} {sep : List Char} {ls : List (List Char)} (hnil : P [])
    (happend : ∀ a b, P a → P b → P (a ++ b)) (hsep : P sep) (h : ∀ l ∈ ls, P l) :
    P (sep.intercalate ls) := by
  induction ls with
  | nil => exact hnil
  | cons l ls ih =>
    have hl := h l (List.mem_cons_self ..)
    cases ls with
    | nil => rwa [List.intercalate_singleton]
    | cons m ls =>
      rw [List.intercalate_cons_cons]
      exact happend _ _ (happend _ _ hl hsep) (ih fun k hk => h k (List.mem_cons_of_mem _ hk))

namespace Scan

/-- The characters of a text that are met at the top level. -/
def outer (s : Scan) : List Char → List Char
  | [] => []
  | c :: cs => if s.atTop then c :: (s.step c).outer cs else (s.step c).outer cs

theorem run_cons (s : Scan) (c : Char) (cs : List Char) : s.run (c :: cs) = (s.step c).run cs := rfl

theorem run_append (s : Scan) (a b : List Char) : s.run (a ++ b) = (s.run a).run b := by
  simp [run]

theorem outer_append (s : Scan) (a b : List Char) :
    s.outer (a ++ b) = s.outer a ++ (s.run a).outer b := by
  induction a generalizing s with
  | nil => rfl
  | cons c a ih =>
    simp only [List.cons_append, outer, ih, run_cons]
    split <;> rfl

/-- What a text does not show at the top level is neither its first character there nor shown by
the rest. -/
theorem not_mem_outer_cons_iff {s : Scan} {x c : Char} {cs : List Char} :
    x ∉ s.outer (c :: cs) ↔ ¬(s.atTop && c == x) = true ∧ x ∉ (s.step c).outer cs := by
  rw [outer]
  split
  · next ht => rw [List.mem_cons, not_or, ht, Bool.true_and, beq_iff_eq, eq_comm (a := x)]
  · next ht => simp [ht]

/-- A character is met at the top level where the text before it leaves the scan there. -/
theorem mem_outer_iff {s : Scan} {x : Char} {cs : List Char} :
    x ∈ s.outer cs ↔ ∃ a b, cs = a ++ x :: b ∧ (s.run a).atTop = true := by
  induction cs generalizing s with
  | nil => simp [outer]
  | cons c cs ih =>
    have hrest : x ∈ (s.step c).outer cs ↔ ∃ a b, cs = a ++ x :: b ∧ (s.run (c :: a)).atTop = true := ih
    have hsplit : (∃ a b, c :: cs = a ++ x :: b ∧ (s.run a).atTop = true) ↔
        (c = x ∧ s.atTop = true) ∨ ∃ a b, cs = a ++ x :: b ∧ (s.run (c :: a)).atTop = true := by
      constructor
      · rintro ⟨a, b, he, ht⟩
        cases a with
        | nil => cases he; exact .inl ⟨rfl, ht⟩
        | cons d a => cases he; exact .inr ⟨a, b, rfl, ht⟩
      · rintro (⟨rfl, ht⟩ | ⟨a, b, rfl, ht⟩)
        · exact ⟨[], cs, rfl, ht⟩
        · exact ⟨c :: a, b, rfl, ht⟩
    rw [hsplit, ← hrest, outer]
    split
    · next ht => rw [List.mem_cons, eq_comm (a := x)]; simp [ht]
    · next ht => simp [ht]

/-! ## Inside a quotation -/

theorem step_inQuote {q c : Char} (h : c ≠ q) (n : Int) :
    step { quote := some q, depth := n } c = { quote := some q, depth := n } := by
  simp [step, h]

/-- Inside a quotation nothing counts until it ends. -/
theorem run_inQuote {q : Char} {cs : List Char} (h : q ∉ cs) (n : Int) :
    run { quote := some q, depth := n } cs = { quote := some q, depth := n } := by
  induction cs with
  | nil => rfl
  | cons c cs ih =>
    rw [List.mem_cons, not_or] at h
    rw [run_cons, step_inQuote (Ne.symm h.1), ih h.2]

theorem outer_inQuote {q : Char} {cs : List Char} (h : q ∉ cs) (n : Int) :
    outer { quote := some q, depth := n } cs = [] := by
  induction cs with
  | nil => rfl
  | cons c cs ih =>
    rw [List.mem_cons, not_or] at h
    rw [outer, step_inQuote (Ne.symm h.1), ih h.2]
    rfl

/-! ## Solid texts -/

/-- A text that stays in one piece when `n` parentheses are open: it leaves the scan where it was,
and shows no closing parenthesis and no comma at the top level. -/
structure Solid (n : Int) (cs : List Char) : Prop where
  /-- All quotations and parentheses are closed. -/
  run_eq : run { depth := n } cs = { depth := n }
  /-- No parenthesis is closed that was not opened. -/
  paren : ')' ∉ outer { depth := n } cs
  comma : ',' ∉ outer { depth := n } cs

instance (n : Int) (cs : List Char) : Decidable (Solid n cs) :=
  decidable_of_iff (run { depth := n } cs = { depth := n } ∧ ')' ∉ outer { depth := n } cs ∧
    ',' ∉ outer { depth := n } cs) ⟨fun ⟨a, b, c⟩ => ⟨a, b, c⟩, fun ⟨a, b, c⟩ => ⟨a, b, c⟩⟩

theorem Solid.nil (n : Int) : Solid n [] := ⟨rfl, List.not_mem_nil, List.not_mem_nil⟩

theorem Solid.append {n : Int} {a b : List Char} (ha : Solid n a) (hb : Solid n b) :
    Solid n (a ++ b) := by
  refine ⟨by rw [run_append, ha.run_eq, hb.run_eq], ?_, ?_⟩
  · rw [outer_append, ha.run_eq, List.mem_append, not_or]
    exact ⟨ha.paren, hb.paren⟩
  · rw [outer_append, ha.run_eq, List.mem_append, not_or]
    exact ⟨ha.comma, hb.comma⟩

theorem Solid.intercalate {n : Int} {sep : List Char} {ls : List (List Char)} (hsep : Solid n sep)
    (h : ∀ l ∈ ls, Solid n l) : Solid n (sep.intercalate ls) :=
  intercalate_closed (Solid.nil n) (fun _ _ => Solid.append) hsep h

/-- A quotation is solid, whatever stands in it. -/
theorem solid_ticked {cs : List Char} (h : '`' ∉ cs) (n : Int) : Solid n (['`'] ++ cs ++ ['`']) := by
  have hrun : run { depth := n } (['`'] ++ cs) = { quote := some '`', depth := n } := run_inQuote h n
  have hout : outer { depth := n } (['`'] ++ cs ++ ['`']) ⊆ ['`'] := by
    have hin : outer (run { depth := n } ['`']) cs = [] := outer_inQuote h n
    rw [outer_append, outer_append, hrun, hin]
    simp only [outer]
    split <;> simp [atTop]
  refine ⟨by rw [run_append, hrun]; rfl, fun hm => ?_, fun hm => ?_⟩
  · exact absurd (hout hm) (by decide)
  · exact absurd (hout hm) (by decide)

/-- Parentheses around what is solid inside of them. -/
theorem Solid.parens {cs : List Char} (h : Solid 1 cs) : Solid 0 (['('] ++ cs ++ [')']) := by
  have hrun : run {} (['('] ++ cs) = { depth := 1 } := h.run_eq
  have hout : outer {} (['('] ++ cs ++ [')']) = '(' :: outer { depth := 1 } cs := by
    rw [outer_append, hrun]
    simp [outer, step, atTop, isQuote]
  refine ⟨by rw [run_append, hrun]; rfl, ?_, ?_⟩
  · rw [hout, List.mem_cons, not_or]
    exact ⟨by decide, h.paren⟩
  · rw [hout, List.mem_cons, not_or]
    exact ⟨by decide, h.comma⟩

end Scan

/-! ## The end of a body -/

theorem closingParen_append {s : Scan} {a : List Char} (h : ')' ∉ s.outer a) (rest : List Char) :
    closingParen s (a ++ rest) = (closingParen (s.run a) rest).map fun r => (a ++ r.1, r.2) := by
  induction a generalizing s with
  | nil => simp [Scan.run]
  | cons c a ih =>
    obtain ⟨hc, ha⟩ := Scan.not_mem_outer_cons_iff.1 h
    rw [List.cons_append, closingParen, if_neg hc, ih ha, Scan.run_cons, Option.map_map]
    rfl

/-- A body ends at a closing parenthesis at the top level, and shows none before. -/
theorem closingParen_eq_some_iff {s : Scan} {cs body rest : List Char} : closingParen s cs = some (body, rest) ↔
    cs = body ++ ')' :: rest ∧ (s.run body).atTop = true ∧ ')' ∉ s.outer body := by
  constructor
  · intro h
    induction cs generalizing s body with
    | nil => cases h
    | cons c cs ih =>
      rw [closingParen] at h
      split at h
      · next hc =>
        cases h
        simp only [Bool.and_eq_true, beq_iff_eq] at hc
        exact ⟨by rw [hc.2]; rfl, hc.1, List.not_mem_nil⟩
      · next hc =>
        obtain ⟨r, hr, he⟩ := Option.map_eq_some_iff.1 h
        cases he
        obtain ⟨rfl, htop, hparen⟩ := ih hr
        exact ⟨rfl, htop, Scan.not_mem_outer_cons_iff.2 ⟨hc, hparen⟩⟩
  · rintro ⟨rfl, htop, hparen⟩
    rw [closingParen_append hparen, closingParen, htop]
    simp

/-- Without a closing parenthesis at the top level a body does not end. -/
theorem closingParen_eq_none_iff {s : Scan} {cs : List Char} : closingParen s cs = none ↔ ')' ∉ s.outer cs := by
  constructor
  · intro h
    induction cs generalizing s with
    | nil => exact List.not_mem_nil
    | cons c cs ih =>
      rw [closingParen] at h
      split at h
      · cases h
      · next hc => exact Scan.not_mem_outer_cons_iff.2 ⟨hc, ih (Option.map_eq_none_iff.1 h)⟩
  · intro h
    have hend := closingParen_append h []
    rwa [List.append_nil] at hend

/-! ## Pieces -/

/-- Puts a text in front of the first piece. -/
def extendFirst (a : List Char) (ps : List (List Char)) : List (List Char) := a.foldr extendHead ps

theorem extendFirst_cons (a p : List Char) (ps : List (List Char)) :
    extendFirst a (p :: ps) = (a ++ p) :: ps := by
  induction a with
  | nil => rfl
  | cons c a ih =>
    rw [extendFirst] at ih
    rw [extendFirst, List.foldr_cons, ih]
    rfl

theorem pieces_append {s : Scan} {a : List Char} (h : ',' ∉ s.outer a) (rest : List Char) :
    pieces s (a ++ rest) = extendFirst a (pieces (s.run a) rest) := by
  induction a generalizing s with
  | nil => rfl
  | cons c a ih =>
    obtain ⟨hc, ha⟩ := Scan.not_mem_outer_cons_iff.1 h
    rw [List.cons_append, pieces, if_neg hc, ih ha]
    rfl

/-! ## Lines of a body -/

/-- Lines as they stand in a body: the first one after a line end, a comma and a line end between
two of them, and a line end after the last. -/
def bodyText (ls : List (List Char)) : List Char := ['\n'] ++ [',', '\n'].intercalate ls ++ ['\n']

theorem bodyText_cons_cons (l m : List Char) (ls : List (List Char)) :
    bodyText (l :: m :: ls) = (['\n'] ++ l) ++ ',' :: bodyText (m :: ls) := by
  simp [bodyText, List.intercalate_cons_cons]

theorem solid_newline {l : List Char} (h : Scan.Solid 0 l) : Scan.Solid 0 (['\n'] ++ l) :=
  Scan.Solid.append (by decide) h

/-- Cutting the body gives the lines again, but for the line ends around them. -/
theorem trim_pieces_bodyText {l : List Char} {ls : List (List Char)} (h : ∀ k ∈ l :: ls, Scan.Solid 0 k) :
    (pieces {} (bodyText (l :: ls))).map trimChars = (l :: ls).map trimChars := by
  have hl := solid_newline (h l (List.mem_cons_self ..))
  induction ls generalizing l with
  | nil =>
    have hend : pieces {} ['\n'] = [['\n']] := rfl
    rw [bodyText, List.intercalate_singleton, pieces_append hl.comma, hl.run_eq, hend,
      extendFirst_cons, List.map_singleton, List.map_singleton]
    exact congrArg (fun t => [t]) (stripBoth_append rfl rfl)
  | cons m ls ih =>
    have hrest : ∀ k ∈ m :: ls, Scan.Solid 0 k := fun k hk => h k (List.mem_cons_of_mem _ hk)
    have hcut : pieces {} (',' :: bodyText (m :: ls)) = [] :: pieces {} (bodyText (m :: ls)) := rfl
    rw [bodyText_cons_cons, pieces_append hl.comma, hl.run_eq, hcut, extendFirst_cons, List.map_cons,
      ih hrest (solid_newline (hrest m (List.mem_cons_self ..))), List.map_cons (l := m :: ls)]
    exact congrArg (· :: _) (stripBoth_append rfl rfl)

/-- A line that is read as a clause wherever it stands in a body. -/
structure Declares (l : List Char) (c : Clause) : Prop where
  solid : Scan.Solid 0 l
  visible : trimChars l ≠ []
  read : Clause.read (trimChars l) = c

theorem solid_of_declares {ls : List (List Char)} {cs : List Clause} (h : List.Forall₂ Declares ls cs) :
    ∀ l ∈ ls, Scan.Solid 0 l := by
  induction h with
  | nil => exact fun l hl => absurd hl List.not_mem_nil
  | cons hc _ ih =>
    intro l hl
    rcases List.mem_cons.1 hl with rfl | hl
    · exact hc.solid
    · exact ih l hl

/-- The clauses of a body are those that its lines declare, in order. -/
theorem clauses_bodyText {ls : List (List Char)} {cs : List Clause} (h : List.Forall₂ Declares ls cs) :
    clauses (bodyText ls) = cs := by
  have hread : ((ls.map trimChars).filter (!·.isEmpty)).map Clause.read = cs := by
    induction h with
    | nil => rfl
    | @cons l c ls cs hc _ ih =>
      have hkeep : (!(trimChars l).isEmpty) = true := by simpa using hc.visible
      rw [List.map_cons, List.filter_cons, if_pos hkeep, List.map_cons, hc.read, ih]
  cases ls with
  | nil =>
    cases h
    rfl
  | cons l ls => rw [clauses, trim_pieces_bodyText (solid_of_declares h), hread]

/-- A body ends where its lines do. -/
theorem closingParen_bodyText {ls : List (List Char)} (hs : ∀ l ∈ ls, Scan.Solid 0 l) (rest : List Char) :
    closingParen {} (bodyText ls ++ ')' :: rest) = some (bodyText ls, rest) := by
  have hclose : closingParen {} (')' :: rest) = some ([], rest) := rfl
  induction ls with
  | nil => rfl
  | cons l ls ih =>
    have hl := solid_newline (hs l (List.mem_cons_self ..))
    cases ls with
    | nil =>
      have hline : Scan.Solid 0 (bodyText [l]) := by
        rw [bodyText, List.intercalate_singleton]
        exact hl.append (by decide)
      rw [closingParen_append hline.paren, hline.run_eq, hclose]
      simp
    | cons m ls =>
      -- The comma between two lines is at the top level, and the scan goes on behind it.
      have hcomma : closingParen {} (',' :: bodyText (m :: ls) ++ ')' :: rest) =
          (closingParen {} (bodyText (m :: ls) ++ ')' :: rest)).map fun r => (',' :: r.1, r.2) := rfl
      rw [bodyText_cons_cons, List.append_assoc, closingParen_append hl.paren, hl.run_eq, hcomma,
        ih fun k hk => hs k (List.mem_cons_of_mem _ hk)]
      rfl

end SchemaAtlas.Dump
