import Mathlib.Algebra.Group.Nat.Defs
import SchemaAtlas.Proofs.Dump.Nesting
/-!
# Reading a dump in rounds

A dump is read in rounds. A round looks for the next header and, behind it, for the parenthesis that
closes the body, and the next round starts behind this parenthesis. Each round moves on in the text
(`round?_eq_some`), so the positions increase (`Rounds.increasing`), and reading comes to an end
with the declarations of the text (`exists_rounds`).

What a round takes for a body and for its definitions is what the parentheses, quotations and commas
of the text say (`bodies_close_and_split`).
-/

namespace SchemaAtlas.Dump

open Text

/-- A round from the position `p` of a text: the declaration that is found, and the position behind the parenthesis
that closes it. -/
def round? (cs : List Char) (p : Nat) : Option (Declaration × Nat) := do
  let (name, opened) ← firstHeader? (cs.drop p)
  let start := cs.length - opened.length
  let (body, _) ← closingParen {} (cs.drop start)
  return (⟨name, body⟩, start + body.length + 1)

/-- Rounds from the position `p` of a text until one finds no declaration: the declarations that are found, and the
positions that are reached. -/
inductive Rounds (cs : List Char) : Nat → List Declaration → List Nat → Prop
  | done {p : Nat} (h : round? cs p = none) : Rounds cs p [] []
  | more {p q : Nat} {d : Declaration} {ds : List Declaration} {qs : List Nat} (h : round? cs p = some (d, q))
      (hrest : Rounds cs q ds qs) : Rounds cs p (d :: ds) (q :: qs)

variable {cs rest : List Char} {d : Declaration} {ds es : List Declaration} {p q : Nat} {ps qs : List Nat}

/-- A round finds the first declaration behind its position, and the text from the next position on is what the
declaration leaves. -/
theorem round?_eq (cs : List Char) (p : Nat) :
    round? cs p = (firstDeclaration? (cs.drop p)).map fun r => (r.1, cs.length - r.2.length) := by
  simp only [round?, firstDeclaration?, Option.bind_eq_bind, Option.pure_def]
  cases hh : firstHeader? (cs.drop p) with
  | none => rfl
  | some h =>
    obtain ⟨name, opened⟩ := h
    have hopened : opened <:+ cs :=
      ((List.suffix_cons '(' opened).trans (firstHeader?_suffix hh)).trans (List.drop_suffix p cs)
    have hlength := hopened.length_le
    simp only [Option.bind_some, ← List.suffix_iff_eq_drop.1 hopened]
    cases hc : closingParen {} opened with
    | none => rfl
    | some r =>
      have hbody := congrArg List.length (closingParen_eq_some_iff.1 hc).1
      simp only [List.length_append, List.length_cons] at hbody
      simp only [Option.bind_some, Option.map_some, Option.some.injEq, Prod.mk.injEq, true_and]
      omega

/-- A round ends behind the position where it starts, with what its declaration leaves. -/
theorem round?_eq_some (h : round? cs p = some (d, q)) :
    firstDeclaration? (cs.drop p) = some (d, cs.drop q) ∧ p < q ∧ q ≤ cs.length := by
  rw [round?_eq] at h
  obtain ⟨⟨d', rest⟩, hd, he⟩ := Option.map_eq_some_iff.1 h
  cases he
  have hrest : rest <:+ cs := (firstDeclaration?_suffix hd).trans (List.drop_suffix p cs)
  have hshort := length_of_firstDeclaration? hd
  rw [List.length_drop] at hshort
  refine ⟨by rw [← List.suffix_iff_eq_drop.1 hrest]; exact hd, ?_, ?_⟩
  · show p < cs.length - rest.length
    omega
  · show cs.length - rest.length ≤ cs.length
    omega

theorem Rounds.increasing (h : Rounds cs p ds qs) : (p :: qs).Pairwise (· < ·) ∧ ∀ q ∈ qs, q ≤ cs.length := by
  induction h with
  | done _ => simp
  | @more p q d ds qs h _ ih =>
    obtain ⟨-, hlt, hle⟩ := round?_eq_some h
    obtain ⟨hrest, hbound⟩ := ih
    refine ⟨List.pairwise_cons.2 ⟨fun r hr => ?_, hrest⟩, fun r hr => ?_⟩
    · rcases List.mem_cons.1 hr with rfl | hr
      · exact hlt
      · exact Nat.lt_trans hlt ((List.pairwise_cons.1 hrest).1 r hr)
    · rcases List.mem_cons.1 hr with rfl | hr
      · exact hle
      · exact hbound r hr

theorem Rounds.unique (h : Rounds cs p ds qs) (h' : Rounds cs p es ps) : ds = es ∧ qs = ps := by
  induction h generalizing es ps with
  | done h =>
    cases h' with
    | done _ => exact ⟨rfl, rfl⟩
    | more h' _ => rw [h] at h'; cases h'
  | more h _ ih =>
    cases h' with
    | done h' => rw [h] at h'; cases h'
    | more h' hrest =>
      rw [h] at h'
      cases h'
      obtain ⟨rfl, rfl⟩ := ih hrest
      exact ⟨rfl, rfl⟩

/-- From every position reading comes to an end, with the declarations of the text from there on. -/
theorem exists_rounds (cs : List Char) (p : Nat) : ∃ qs, Rounds cs p (declarations (cs.drop p)) qs := by
  generalize ht : cs.drop p = t
  induction t using declarations.induct generalizing p with
  | case1 t h =>
    rw [declarations_of_none h]
    exact ⟨[], .done (by rw [round?_eq, ht, h]; rfl)⟩
  | case2 t d rest h ih =>
    have hround : round? cs p = some (d, cs.length - rest.length) := by rw [round?_eq, ht, h]; rfl
    obtain ⟨hfirst, -⟩ := round?_eq_some hround
    rw [ht, h, Option.some.injEq, Prod.mk.injEq] at hfirst
    obtain ⟨qs, hqs⟩ := ih _ hfirst.2.symm
    rw [declarations_of_some h]
    exact ⟨_, .more hround hqs⟩

/-- A body ends at the first closing parenthesis that has a closed text before it, and at none if there is no such
parenthesis. The body is nested. There is one way of cutting it at all its commas outside of quotations and
parentheses; each piece is nested and has no such comma, and the definitions that are read as clauses are the pieces
without the blanks around them, empty ones left out. Numbers of 32 bits suffice for the count if there are fewer than
`2 ^ 31` parentheses. Reading any text comes to an end after rounds at increasing positions, with the declarations that
the document is made of. -/
theorem bodies_close_and_split (cs : List Char) :
    (∀ body rest, closingParen {} cs = some (body, rest) ↔
        ShowsAt ')' cs body rest ∧ ∀ a b, ShowsAt ')' cs a b → body.length ≤ a.length) ∧
      (closingParen {} cs = none ↔ ∀ a b, ¬ShowsAt ')' cs a b) ∧
      (∀ body rest, closingParen {} cs = some (body, rest) → Nested body ∧ (∃! ds, IsCut body ds) ∧
        ∀ ds, IsCut body ds → definitions body = (ds.map trimChars).filter (!·.isEmpty) ∧
          clauses body = (definitions body).map Clause.read ∧
          ∀ d ∈ ds ++ definitions body, Nested d ∧ ∀ a b, ¬ShowsAt ',' d a b) ∧
      (cs.count '(' + cs.count ')' < 2 ^ 31 → ∀ a, a <+: cs → (Scan.run {} a).depth.natAbs < 2 ^ 31) ∧
      ∃ ps, (∀ ds qs, Rounds cs 0 ds qs ↔ ds = declarations cs ∧ qs = ps) ∧ (0 :: ps).Pairwise (· < ·) ∧
        (∀ p ∈ ps, p ≤ cs.length) ∧
        document (String.ofList cs) = ofStatements ((declarations cs).map Declaration.statement) := by
  refine ⟨fun body rest => closingParen_first, closingParen_none, fun body rest h => ⟨nested_of_closingParen h, ?_, ?_⟩,
    fun hcount a ha => Scan.depth_lt hcount ha, ?_⟩
  · exact ⟨pieces {} body, isCut_iff.2 rfl, fun ds hds => isCut_iff.1 hds⟩
  · intro ds hds
    obtain rfl := isCut_iff.1 hds
    exact ⟨rfl, clauses_eq body, parts_of_closingParen h⟩
  · obtain ⟨ps, hps⟩ := exists_rounds cs 0
    rw [List.drop_zero] at hps
    obtain ⟨hincreasing, hbound⟩ := hps.increasing
    refine ⟨ps, fun ds qs => ⟨fun h => h.unique hps, ?_⟩, hincreasing, hbound, ?_⟩
    · rintro ⟨rfl, rfl⟩
      exact hps
    · rw [document, String.toList_ofList, statements_eq]

/-- A body with a parenthesis, a comma and other quotes in its quotations, commas in parentheses, and nothing but a
blank between two commas. -/
theorem bodies_close_and_split_quoted :
    let body := "`a,)` ENUM('x)', \"(,`\"), ,b DECIMAL(10,2)".toList
    let rest := " COMMENT=')';".toList
    let ds := ["`a,)` ENUM('x)', \"(,`\")".toList, [' '], "b DECIMAL(10,2)".toList]
    (∀ a b, ShowsAt ')' (body ++ ')' :: rest) a b → body.length ≤ a.length) ∧ Nested body ∧ IsCut body ds ∧
      (∀ es, IsCut body es → es = ds) ∧
      definitions body = ["`a,)` ENUM('x)', \"(,`\")".toList, "b DECIMAL(10,2)".toList] ∧ ∀ d ∈ ds, Nested d := by
  intro body rest ds
  obtain ⟨hend, -, hsplit, -⟩ := bodies_close_and_split (body ++ ')' :: rest)
  have hclose : closingParen {} (body ++ ')' :: rest) = some (body, rest) := by decide +kernel
  have hcut : IsCut body ds := isCut_iff.2 (by decide +kernel)
  obtain ⟨hnested, hunique, hparts⟩ := hsplit body rest hclose
  obtain ⟨hdefinitions, -, hpieces⟩ := hparts ds hcut
  refine ⟨((hend body rest).1 hclose).2, hnested, hcut, fun es hes => hunique.unique hes hcut, ?_,
    fun d hd => (hpieces d (List.mem_append_left _ hd)).1⟩
  rw [hdefinitions]
  decide +kernel

end SchemaAtlas.Dump
