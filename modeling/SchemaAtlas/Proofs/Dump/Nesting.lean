import SchemaAtlas.Proofs.Dump.Clauses
import SchemaAtlas.Proofs.Text.Trim
/-!
# Closed and nested texts

What a scan does, said without one. `Unquoted` reads a text as characters and quotations one after
the other and tells what stands outside of the quotations. A text is `Closed` if its quotations are
and as many parentheses are closed as are opened, and `Nested` if moreover none is closed before it
is opened.

A scan is back where it started exactly behind a closed text (`closed_iff`). Hence a body ends at
the first closing parenthesis that has a closed text before it (`closingParen_first`), the body is
nested (`nested_of_closingParen`), and its pieces are the one way of cutting it at all commas that
have a closed text before them (`isCut_iff`). Each piece is nested in its turn, with the blanks
around it or without (`parts_of_closingParen`).
-/

namespace SchemaAtlas.Dump

open Text

/-! ## Texts and what stands outside of their quotations -/

/-- All quotations of `cs` are closed, and `o` is what stands outside of them. A quotation ends at the
next occurrence of the quote that it starts with. -/
inductive Unquoted : List Char → List Char → Prop
  | nil : Unquoted [] []
  | char {c : Char} {cs o : List Char} (hc : isQuote c = false) (h : Unquoted cs o) : Unquoted (c :: cs) (c :: o)
  | quotation {q : Char} {u cs o : List Char} (hq : isQuote q = true) (hu : q ∉ u) (h : Unquoted cs o) :
      Unquoted (q :: (u ++ q :: cs)) o

/-- All quotations are closed, and outside of them as many parentheses are closed as are opened. -/
def Closed (cs : List Char) : Prop := ∃ o, Unquoted cs o ∧ o.count '(' = o.count ')'

/-- All quotations are closed, and outside of them each parenthesis closes one that was opened before it, and
none is left open. -/
def Nested (cs : List Char) : Prop :=
  ∃ o, Unquoted cs o ∧ o.count '(' = o.count ')' ∧ ∀ p, p <+: o → p.count ')' ≤ p.count '('

/-- The character `x` stands in `cs` behind the closed text `a` and before `b`: outside of quotations, where no more
parentheses are opened than closed. -/
def ShowsAt (x : Char) (cs a b : List Char) : Prop := cs = a ++ x :: b ∧ Closed a

/-! ## Closed texts in a scan -/

section Scan

variable {q c x : Char} {u cs o a b : List Char} {n : Int} {s : Scan}

theorem Scan.atTop_iff : s.atTop = true ↔ s = {} := by
  obtain ⟨quote, depth⟩ := s
  simp [Scan.atTop]

theorem Scan.step_opening (hq : isQuote q = true) (n : Int) :
    Scan.step { depth := n } q = { quote := some q, depth := n } := by
  simp [Scan.step, hq]

theorem Scan.run_quotation (hq : isQuote q = true) (hu : q ∉ u) (n : Int) (cs : List Char) :
    Scan.run { depth := n } (q :: (u ++ q :: cs)) = Scan.run { depth := n } cs := by
  have hend : Scan.step { quote := some q, depth := n } q = { depth := n } := by simp [Scan.step]
  rw [Scan.run_cons, Scan.step_opening hq, Scan.run_append, Scan.run_inQuote hu, Scan.run_cons, hend]

theorem count_cons_eq (x c : Char) (cs : List Char) : (c :: cs).count x = [c].count x + cs.count x := by
  rw [← List.count_append, List.singleton_append]

/-- Outside of quotations each parenthesis counts. -/
theorem Scan.step_char (hc : isQuote c = false) (n : Int) :
    Scan.step { depth := n } c = { depth := n + [c].count '(' - [c].count ')' } := by
  by_cases hopen : c = '('
  · subst hopen
    simp [Scan.step, isQuote]
  · by_cases hclose : c = ')'
    · subst hclose
      simp [Scan.step, isQuote]
    · simp [Scan.step, hc, hopen, hclose]

/-- A scan counts the parentheses that stand outside of quotations. -/
theorem Unquoted.run (h : Unquoted cs o) (n : Int) :
    Scan.run { depth := n } cs = { depth := n + o.count '(' - o.count ')' } := by
  induction h generalizing n with
  | nil => simp [Scan.run]
  | @char c cs o hc h ih =>
    rw [Scan.run_cons, Scan.step_char hc, ih, count_cons_eq '(' c o, count_cons_eq ')' c o]
    congr 1
    omega
  | quotation hq hu _ ih => rw [Scan.run_quotation hq hu, ih]

/-- A text that leaves a scan outside of quotations has closed them all; where the scan starts in a quotation, the
text ends this one first. -/
theorem Scan.unquoted_of_run (h : (s.run cs).quote = none) :
    (s.quote = none → ∃ o, Unquoted cs o) ∧
      ∀ q, s.quote = some q → ∃ u v o, cs = u ++ q :: v ∧ q ∉ u ∧ Unquoted v o := by
  induction cs generalizing s with
  | nil => exact ⟨fun _ => ⟨[], .nil⟩, fun q hq => by rw [show s.run [] = s from rfl, hq] at h; cases h⟩
  | cons c cs ih =>
    obtain ⟨quote, n⟩ := s
    rw [Scan.run_cons] at h
    obtain ⟨hout, hin⟩ := ih h
    constructor
    · rintro rfl
      by_cases hc : isQuote c = true
      · rw [Scan.step_opening hc] at hin
        obtain ⟨u, v, o, rfl, hu, hv⟩ := hin c rfl
        exact ⟨o, .quotation hc hu hv⟩
      · have hquote : (Scan.step { depth := n } c).quote = none := by rw [Scan.step_char (by simpa using hc)]
        obtain ⟨o, ho⟩ := hout hquote
        exact ⟨c :: o, .char (by simpa using hc) ho⟩
    · rintro q ⟨rfl⟩
      by_cases hc : c = q
      · subst hc
        obtain ⟨o, ho⟩ := hout (by simp [Scan.step])
        exact ⟨[], cs, o, rfl, List.not_mem_nil, ho⟩
      · rw [Scan.step_inQuote hc] at hin
        obtain ⟨u, v, o, rfl, hu, hv⟩ := hin q rfl
        refine ⟨c :: u, v, o, rfl, ?_, hv⟩
        rw [List.mem_cons, not_or]
        exact ⟨Ne.symm hc, hu⟩

theorem exists_unquoted (h : Scan.run {} cs = {}) : ∃ o, Unquoted cs o := (Scan.unquoted_of_run (by rw [h])).1 rfl

/-- The texts that leave a scan where it starts are the closed ones. -/
theorem closed_iff : Closed cs ↔ Scan.run {} cs = {} := by
  constructor
  · rintro ⟨o, ho, hcount⟩
    rw [ho.run, hcount]
    simp
  · intro h
    obtain ⟨o, ho⟩ := exists_unquoted h
    refine ⟨o, ho, ?_⟩
    have hdepth := congrArg Scan.depth ((ho.run 0).symm.trans h)
    simp only at hdepth
    omega

theorem showsAt_iff : ShowsAt x cs a b ↔ cs = a ++ x :: b ∧ (Scan.run {} a).atTop = true := by
  rw [ShowsAt, closed_iff, Scan.atTop_iff]

theorem mem_outer_iff_showsAt : x ∈ Scan.outer {} cs ↔ ∃ a b, ShowsAt x cs a b := by
  simp only [Scan.mem_outer_iff, showsAt_iff]

/-- Where no closing parenthesis is met at the top level, none is closed that was not opened. -/
theorem Unquoted.count_le (h : Unquoted cs o) (hn : 0 ≤ n) (hparen : ')' ∉ Scan.outer { depth := n } cs) :
    ∀ p, p <+: o → (p.count ')' : Int) ≤ n + p.count '(' := by
  induction h generalizing n with
  | nil =>
    intro p hp
    rw [List.prefix_nil.1 hp]
    simpa using hn
  | @char c cs o hc h ih =>
    intro p hp
    rcases List.prefix_cons_iff.1 hp with rfl | ⟨p, rfl, hrestp⟩
    · simpa using hn
    · obtain ⟨htop, hrest⟩ := Scan.not_mem_outer_cons_iff.1 hparen
      rw [Scan.step_char hc] at hrest
      have hn' : 0 ≤ n + [c].count '(' - [c].count ')' := by
        by_cases hclose : c = ')'
        · subst hclose
          have hpos : n ≠ 0 := by
            rintro rfl
            exact htop rfl
          simp
          omega
        · have hnone : [c].count ')' = 0 := List.count_eq_zero.2 fun hm => hclose (List.mem_singleton.1 hm).symm
          omega
      have := ih hn' hrest p hrestp
      rw [count_cons_eq ')' c p, count_cons_eq '(' c p]
      omega
  | @quotation q u cs o hq hu _ ih =>
    refine ih hn fun hm => hparen ?_
    have hskip : Scan.run { depth := n } (q :: (u ++ [q])) = { depth := n } := Scan.run_quotation hq hu n []
    rw [show q :: (u ++ q :: cs) = q :: (u ++ [q]) ++ cs by simp, Scan.outer_append, hskip]
    exact List.mem_append_right _ hm

theorem nested_of_run (h : Scan.run {} cs = {}) (hparen : ')' ∉ Scan.outer {} cs) : Nested cs := by
  obtain ⟨o, ho, hcount⟩ := closed_iff.2 h
  refine ⟨o, ho, hcount, fun p hp => ?_⟩
  have := ho.count_le (Int.le_refl 0) hparen p hp
  omega

end Scan

/-! ## Where a body ends -/

section Ends

variable {cs body rest : List Char} {s : Scan}

/-- A body ends at the first closing parenthesis outside of quotations and parentheses. -/
theorem closingParen_first : closingParen {} cs = some (body, rest) ↔
    ShowsAt ')' cs body rest ∧ ∀ a b, ShowsAt ')' cs a b → body.length ≤ a.length := by
  rw [closingParen_eq_some_iff, showsAt_iff, and_assoc]
  refine and_congr_right fun hcs => and_congr_right fun htop => ?_
  constructor
  · intro hparen a b hab
    by_contra hlt
    -- A parenthesis before the end of the body would be met in the body.
    obtain ⟨hab, hclosed⟩ := showsAt_iff.1 hab
    obtain ⟨m, hm⟩ : a ++ [')'] <+: body := by
      refine List.prefix_of_prefix_length_le ⟨b, ?_⟩ ⟨_, hcs.symm⟩ ?_
      · rw [hab, List.append_assoc, List.singleton_append]
      · rw [List.length_append, List.length_singleton]
        omega
    exact hparen (Scan.mem_outer_iff.2 ⟨a, m, by rw [← hm]; simp, hclosed⟩)
  · intro hfirst hm
    obtain ⟨a, b, rfl, hclosed⟩ := Scan.mem_outer_iff.1 hm
    have := hfirst a (b ++ ')' :: rest) (showsAt_iff.2 ⟨by rw [hcs]; simp, hclosed⟩)
    simp only [List.length_append, List.length_cons] at this
    omega

theorem closingParen_none : closingParen {} cs = none ↔ ∀ a b, ¬ShowsAt ')' cs a b := by
  rw [closingParen_eq_none_iff, mem_outer_iff_showsAt]
  simp only [not_exists]

theorem nested_of_closingParen (h : closingParen {} cs = some (body, rest)) : Nested body := by
  obtain ⟨-, htop, hparen⟩ := closingParen_eq_some_iff.1 h
  exact nested_of_run (Scan.atTop_iff.1 htop) hparen

end Ends

/-! ## Cutting at commas -/

/-- Two of the pieces `ds` meet between the texts `a` and `b`. -/
def MeetAt (ds : List (List Char)) (a b : List Char) : Prop :=
  ∃ l r, l ≠ [] ∧ r ≠ [] ∧ ds = l ++ r ∧ a = [','].intercalate l ∧ b = [','].intercalate r

/-- The pieces `ds`, with commas between them, make up `cs`, and they meet at all the commas of `cs` outside of
quotations and parentheses and at no other place. -/
structure IsCut (cs : List Char) (ds : List (List Char)) : Prop where
  ne_nil : ds ≠ []
  join : [','].intercalate ds = cs
  meet_iff : ∀ a b, MeetAt ds a b ↔ ShowsAt ',' cs a b

section Cuts

variable {c : Char} {cs a b d : List Char} {ds es : List (List Char)} {s : Scan}

theorem intercalate_cons_of_ne_nil (h : ds ≠ []) (d : List Char) :
    [','].intercalate (d :: ds) = d ++ ',' :: [','].intercalate ds := by
  obtain ⟨e, es, rfl⟩ := List.exists_cons_of_ne_nil h
  rw [List.intercalate_cons_cons, List.append_assoc, List.singleton_append]

theorem not_meetAt_singleton : ¬MeetAt [d] a b := by
  rintro ⟨l, r, hl, hr, h, -, -⟩
  have hlength := congrArg List.length h
  have := List.length_pos_iff.2 hl
  have := List.length_pos_iff.2 hr
  simp only [List.length_singleton, List.length_append] at hlength
  omega

theorem meetAt_cons (h : ds ≠ []) : MeetAt (d :: ds) a b ↔
    (a = d ∧ b = [','].intercalate ds) ∨ ∃ a', a = d ++ ',' :: a' ∧ MeetAt ds a' b := by
  constructor
  · rintro ⟨l, r, hl, hr, he, rfl, rfl⟩
    obtain ⟨d', l, rfl⟩ := List.exists_cons_of_ne_nil hl
    cases he
    by_cases hnil : l = []
    · subst hnil
      exact .inl ⟨List.intercalate_singleton .., rfl⟩
    · exact .inr ⟨_, intercalate_cons_of_ne_nil hnil d, l, r, hnil, hr, rfl, rfl, rfl⟩
  · rintro (⟨rfl, rfl⟩ | ⟨a', rfl, l, r, hl, hr, rfl, rfl, rfl⟩)
    · exact ⟨[a], ds, List.cons_ne_nil _ _, h, rfl, (List.intercalate_singleton ..).symm, rfl⟩
    · exact ⟨d :: l, r, List.cons_ne_nil _ _, hr, rfl, (intercalate_cons_of_ne_nil hl d).symm, rfl⟩

theorem intercalate_extendHead (h : ds ≠ []) : [','].intercalate (extendHead c ds) = c :: [','].intercalate ds := by
  obtain ⟨p, ps, rfl⟩ := List.exists_cons_of_ne_nil h
  cases ps with
  | nil => simp [extendHead]
  | cons q ps => simp [extendHead, List.intercalate_cons_cons]

theorem meetAt_extendHead (h : ds ≠ []) : MeetAt (extendHead c ds) a b ↔ ∃ a', a = c :: a' ∧ MeetAt ds a' b := by
  obtain ⟨p, ps, rfl⟩ := List.exists_cons_of_ne_nil h
  by_cases hps : ps = []
  · subst hps
    simp [extendHead, not_meetAt_singleton]
  · rw [extendHead, meetAt_cons hps]
    simp only [meetAt_cons hps]
    constructor
    · rintro (⟨rfl, rfl⟩ | ⟨a', rfl, hm⟩)
      · exact ⟨p, rfl, .inl ⟨rfl, rfl⟩⟩
      · exact ⟨p ++ ',' :: a', rfl, .inr ⟨a', rfl, hm⟩⟩
    · rintro ⟨-, rfl, ⟨rfl, rfl⟩ | ⟨a', rfl, hm⟩⟩
      · exact .inl ⟨rfl, rfl⟩
      · exact .inr ⟨a', rfl, hm⟩

/-- The pieces with commas between them give the text back. -/
theorem intercalate_pieces (s : Scan) (cs : List Char) : [','].intercalate (pieces s cs) = cs := by
  induction cs generalizing s with
  | nil => simp [pieces]
  | cons c cs ih =>
    have hne := pieces_ne_nil (s.step c) cs
    rw [pieces]
    split
    · next hc =>
      simp only [Bool.and_eq_true, beq_iff_eq] at hc
      rw [intercalate_cons_of_ne_nil hne, ih, hc.2]
      rfl
    · rw [intercalate_extendHead hne, ih]

/-- The pieces meet at the commas that the scan meets at the top level. -/
theorem meetAt_pieces : MeetAt (pieces s cs) a b ↔ cs = a ++ ',' :: b ∧ (s.run a).atTop = true := by
  induction cs generalizing s a with
  | nil =>
    rw [pieces]
    simp [not_meetAt_singleton]
  | cons c cs ih =>
    have hne := pieces_ne_nil (s.step c) cs
    rw [pieces]
    split
    · next hc =>
      obtain ⟨htop, rfl⟩ : s.atTop = true ∧ c = ',' := by simpa using hc
      rw [meetAt_cons hne, intercalate_pieces]
      constructor
      · rintro (⟨rfl, rfl⟩ | ⟨a', rfl, hm⟩)
        · exact ⟨rfl, htop⟩
        · obtain ⟨rfl, hrun⟩ := ih.1 hm
          exact ⟨rfl, hrun⟩
      · rintro ⟨he, hrun⟩
        cases a with
        | nil => cases he; exact .inl ⟨rfl, rfl⟩
        | cons x a => cases he; exact .inr ⟨a, rfl, ih.2 ⟨rfl, hrun⟩⟩
    · next hc =>
      rw [meetAt_extendHead hne]
      constructor
      · rintro ⟨a', rfl, hm⟩
        obtain ⟨rfl, hrun⟩ := ih.1 hm
        exact ⟨rfl, hrun⟩
      · rintro ⟨he, hrun⟩
        cases a with
        | nil =>
          cases he
          have htop : s.atTop = true := hrun
          exact absurd (by rw [htop]; rfl) hc
        | cons x a => cases he; exact ⟨a, rfl, ih.2 ⟨rfl, hrun⟩⟩

/-- A way of cutting a text is known by the places where its pieces meet. -/
theorem eq_of_meetAt (hds : ds ≠ []) (hes : es ≠ []) (hjoin : [','].intercalate ds = [','].intercalate es)
    (hmeet : ∀ a b, MeetAt ds a b ↔ MeetAt es a b) : ds = es := by
  induction ds generalizing es with
  | nil => exact absurd rfl hds
  | cons d ds ih =>
    obtain ⟨e, es, rfl⟩ := List.exists_cons_of_ne_nil hes
    by_cases hnil : ds = []
    · subst hnil
      have hnil' : es = [] := by
        by_contra hne
        exact not_meetAt_singleton ((hmeet _ _).2 ((meetAt_cons hne).2 (.inl ⟨rfl, rfl⟩)))
      subst hnil'
      simpa using hjoin
    · have hnil' : es ≠ [] := by
        rintro rfl
        exact not_meetAt_singleton ((hmeet _ _).1 ((meetAt_cons hnil).2 (.inl ⟨rfl, rfl⟩)))
      -- Each of the two first pieces starts with the other, so they are the same.
      have hprefix {x y : List Char} {xs : List (List Char)} (hxs : xs ≠ []) {b : List Char}
          (h : MeetAt (x :: xs) y b) : x <+: y := by
        rcases (meetAt_cons hxs).1 h with ⟨rfl, -⟩ | ⟨a', rfl, -⟩
        · exact List.prefix_rfl
        · exact List.prefix_append ..
      have hd : e <+: d := hprefix hnil' ((hmeet _ _).1 ((meetAt_cons hnil).2 (.inl ⟨rfl, rfl⟩)))
      have he : d <+: e := hprefix hnil ((hmeet _ _).2 ((meetAt_cons hnil').2 (.inl ⟨rfl, rfl⟩)))
      obtain rfl : d = e := he.eq_of_length_le hd.length_le
      have hbehind {xs : List (List Char)} (hxs : xs ≠ []) (a b : List Char) :
          MeetAt (d :: xs) (d ++ ',' :: a) b ↔ MeetAt xs a b := by
        rw [meetAt_cons hxs]
        simp
      rw [intercalate_cons_of_ne_nil hnil, intercalate_cons_of_ne_nil hnil'] at hjoin
      have hrest : [','].intercalate ds = [','].intercalate es := by simpa using hjoin
      rw [ih hnil hnil' hrest fun a b => by rw [← hbehind hnil, hmeet, hbehind hnil']]

/-- There is one way of cutting a text at all its commas outside of quotations and parentheses. -/
theorem isCut_iff : IsCut cs ds ↔ ds = pieces {} cs := by
  have hcut : IsCut cs (pieces {} cs) :=
    ⟨pieces_ne_nil {} cs, intercalate_pieces {} cs, fun a b => meetAt_pieces.trans showsAt_iff.symm⟩
  constructor
  · intro h
    exact eq_of_meetAt h.ne_nil hcut.ne_nil (h.join.trans hcut.join.symm)
      fun a b => (h.meet_iff a b).trans (hcut.meet_iff a b).symm
  · rintro rfl
    exact hcut

end Cuts

/-! ## The pieces of a body -/

section Pieces

variable {cs d body rest : List Char} {s : Scan}

/-- The pieces of a text without a closing parenthesis at the top level: all but the first are solid, and the first
one takes the scan to the top level. -/
theorem solid_pieces (hrun : s.run cs = {}) (hparen : ')' ∉ s.outer cs) :
    ∃ p ps, pieces s cs = p :: ps ∧ s.run p = {} ∧ ')' ∉ s.outer p ∧ ',' ∉ s.outer p ∧
      ∀ d ∈ ps, Scan.Solid 0 d := by
  induction cs generalizing s with
  | nil => exact ⟨[], [], rfl, hrun, List.not_mem_nil, List.not_mem_nil, fun d hd => absurd hd List.not_mem_nil⟩
  | cons c cs ih =>
    obtain ⟨hc, hrest⟩ := Scan.not_mem_outer_cons_iff.1 hparen
    obtain ⟨p, ps, hp, hprun, hpparen, hpcomma, hps⟩ := ih hrun hrest
    rw [pieces]
    split
    · next hcomma =>
      obtain ⟨htop, rfl⟩ : s.atTop = true ∧ c = ',' := by simpa using hcomma
      obtain rfl := Scan.atTop_iff.1 htop
      refine ⟨[], p :: ps, by rw [hp], rfl, List.not_mem_nil, List.not_mem_nil, fun d hd => ?_⟩
      rcases List.mem_cons.1 hd with rfl | hd
      · exact ⟨hprun, hpparen, hpcomma⟩
      · exact hps d hd
    · next hcomma =>
      exact ⟨c :: p, ps, by rw [hp]; rfl, hprun, Scan.not_mem_outer_cons_iff.2 ⟨hc, hpparen⟩,
        Scan.not_mem_outer_cons_iff.2 ⟨hcomma, hpcomma⟩, hps⟩

/-- Trimming leaves a solid text solid: the blanks at its ends stand outside of its quotations. -/
theorem Scan.Solid.trim {n : Int} (h : Scan.Solid n d) : Scan.Solid n (trimChars d) := by
  obtain ⟨a, b, hd, ha, hb⟩ := exists_stripBoth isBlank d
  have hstart : Scan.run { depth := n } a = { depth := n } := (Scan.proper_outside n).run_blanks ha
  have hend := ((Scan.proper_outside n).run (trimChars d)).run_blanks hb
  have hout : Scan.outer { depth := n } (trimChars d) ⊆ Scan.outer { depth := n } d := by
    intro x hx
    rw [hd, Scan.outer_append, Scan.outer_append, hstart]
    exact List.mem_append_left _ (List.mem_append_right _ hx)
  refine ⟨?_, fun hm => h.paren (hout hm), fun hm => h.comma (hout hm)⟩
  have hrun := h.run_eq
  rw [hd, Scan.run_append, Scan.run_append, hstart] at hrun
  exact hend.symm.trans hrun

theorem Scan.Solid.nested (h : Scan.Solid 0 d) : Nested d ∧ ∀ a b, ¬ShowsAt ',' d a b := by
  refine ⟨nested_of_run h.run_eq h.paren, fun a b hab => ?_⟩
  exact h.comma (mem_outer_iff_showsAt.2 ⟨a, b, hab⟩)

/-- The pieces of a body are nested and show no comma, and so are its definitions. -/
theorem parts_of_closingParen (h : closingParen {} cs = some (body, rest)) :
    ∀ d ∈ pieces {} body ++ definitions body, Nested d ∧ ∀ a b, ¬ShowsAt ',' d a b := by
  obtain ⟨-, htop, hparen⟩ := closingParen_eq_some_iff.1 h
  obtain ⟨p, ps, hp, hprun, hpparen, hpcomma, hps⟩ := solid_pieces (Scan.atTop_iff.1 htop) hparen
  have hsolid : ∀ d ∈ pieces {} body, Scan.Solid 0 d := by
    intro d hd
    rw [hp] at hd
    rcases List.mem_cons.1 hd with rfl | hd
    · exact ⟨hprun, hpparen, hpcomma⟩
    · exact hps d hd
  intro d hd
  rcases List.mem_append.1 hd with hd | hd
  · exact (hsolid d hd).nested
  · obtain ⟨e, he, rfl⟩ := List.mem_map.1 (List.mem_filter.1 hd).1
    exact (hsolid e he).trim.nested

end Pieces

/-! ## How far a scan counts -/

theorem Scan.natAbs_step_le (s : Scan) (c : Char) :
    ((s.step c).depth - s.depth).natAbs ≤ [c].count '(' + [c].count ')' := by
  obtain ⟨quote, n⟩ := s
  cases quote with
  | some q =>
    simp only [Scan.step]
    split <;> simp
  | none =>
    by_cases hc : isQuote c = true
    · rw [Scan.step_opening hc]
      simp
    · rw [Scan.step_char (by simpa using hc)]
      simp only
      omega

theorem Scan.natAbs_run_le (s : Scan) (cs : List Char) :
    ((s.run cs).depth - s.depth).natAbs ≤ cs.count '(' + cs.count ')' := by
  induction cs generalizing s with
  | nil => simp [Scan.run]
  | cons c cs ih =>
    have hstep := s.natAbs_step_le c
    have hrest := ih (s.step c)
    rw [Scan.run_cons, count_cons_eq '(' c cs, count_cons_eq ')' c cs]
    omega

/-- In a text of fewer than `m` parentheses, no beginning of it counts up or down to `m`. -/
theorem Scan.depth_lt {cs a : List Char} {m : Nat} (h : cs.count '(' + cs.count ')' < m) (ha : a <+: cs) :
    (Scan.run {} a).depth.natAbs < m := by
  have hbound := Scan.natAbs_run_le {} a
  have hopen := ha.sublist.count_le '('
  have hclose := ha.sublist.count_le ')'
  simp only [Int.sub_zero] at hbound
  omega

end SchemaAtlas.Dump
