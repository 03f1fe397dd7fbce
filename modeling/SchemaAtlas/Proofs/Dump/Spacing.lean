import SchemaAtlas.Proofs.Dump.Alike
import SchemaAtlas.Proofs.Text.Spacing
/-!
# Blanks in a dump

A squeezed dump has the tables and the definitions of the dump, squeezed (`declarations_squeeze`,
`definitions_squeeze`), and most of what is read from a definition does not depend on the blanks in
it.
-/

namespace SchemaAtlas.Dump

open Text

/-! ## Readers of squeezed texts -/

section Readers

variable {w cs : List Char} {p : Char → Bool}

theorem eatBlanks_squeeze (cs : List Char) : eatBlanks (squeeze cs) = (eatBlanks cs).map squeeze := by
  cases cs with
  | nil => rfl
  | cons c cs =>
    cases h : isBlank c with
    | true =>
      rw [squeeze_blank h, eatBlanks, if_pos (by decide), dropWhile_eq_self head?_squeezeFrom_true, eatBlanks, if_pos h,
        squeezeFrom_true]
      rfl
    | false => simp [squeeze_visible h, eatBlanks, h]

theorem eat_squeeze {c : Char} (hc : isBlank c = false) (cs : List Char) : eat c (squeeze cs) = (eat c cs).map squeeze := by
  cases cs with
  | nil => rfl
  | cons x cs =>
    cases h : isBlank x with
    | true =>
      have hx : ' ' ≠ c := ne_of_isBlank rfl hc
      simp [squeeze_blank h, eat, hx, ne_of_isBlank h hc]
    | false =>
      rw [squeeze_visible h, eat, eat]
      split <;> rfl

theorem dropTick_squeeze (cs : List Char) : dropTick (squeeze cs) = squeeze (dropTick cs) := by
  cases cs with
  | nil => rfl
  | cons x cs =>
    cases h : isBlank x with
    | true =>
      have hx : x ≠ '`' := ne_of_isBlank h rfl
      have hdrop : dropTick (x :: cs) = x :: cs := by simp [dropTick, hx]
      rw [hdrop, squeeze_blank h]
      rfl
    | false =>
      rw [squeeze_visible h]
      by_cases hx : x = '`'
      · subst hx; rfl
      · have hdrop (r : List Char) : dropTick (x :: r) = x :: r := by simp [dropTick, hx]
        rw [hdrop, hdrop, squeeze_visible h]

theorem eatWord_squeeze (hw : w.all (!isBlank ·) = true) (cs : List Char) :
    eatWord w (squeeze cs) = (eatWord w cs).map squeeze := by
  induction w generalizing cs with
  | nil => rfl
  | cons l w ih =>
    simp only [List.all_cons, Bool.and_eq_true, Bool.not_eq_true'] at hw
    cases cs with
    | nil => rfl
    | cons c cs =>
      cases h : isBlank c with
      | true =>
        have hspace : foldCase ' ' ≠ l := by
          rw [(cases_blank (c := ' ') rfl).2]
          exact ne_of_isBlank rfl hw.1
        have hc : foldCase c ≠ l := by
          rw [(cases_blank h).2]
          exact ne_of_isBlank h hw.1
        simp [squeeze_blank h, eatWord, hspace, hc]
      | false =>
        rw [squeeze_visible h, eatWord, eatWord, ih hw.2]
        split <;> rfl

theorem eatWordBlanks_squeeze (hw : w.all (!isBlank ·) = true) (cs : List Char) :
    eatWordBlanks w (squeeze cs) = (eatWordBlanks w cs).map squeeze := by
  simp only [eatWordBlanks, eatWord_squeeze hw, Option.bind_eq_bind]
  cases eatWord w cs with
  | none => rfl
  | some r => exact eatBlanks_squeeze r

theorem eatRun_squeeze_visible (hp : ∀ c, isBlank c = true → p c = false) (cs : List Char) :
    eatRun p (squeeze cs) = (eatRun p cs).map fun r => (r.1, squeeze r.2) := by
  unfold eatRun
  rw [takeWhile_squeeze_visible hp, dropWhile_squeeze_visible hp]
  cases cs.takeWhile p <;> rfl

theorem eatRun_squeeze (hp : ∀ c, isBlank c = true → p c = true) (cs : List Char) :
    eatRun p (squeeze cs) = (eatRun p cs).map fun r => (squeeze r.1, squeeze r.2) := by
  unfold eatRun
  rw [squeeze, takeWhile_squeezeFrom hp, dropWhile_squeezeFrom hp]
  cases h : cs.takeWhile p with
  | nil => rfl
  | cons c r =>
    cases hs : squeezeFrom false (c :: r) with
    | nil => exact absurd (squeeze_eq_nil_iff.1 hs) (List.cons_ne_nil _ _)
    | cons x v => simp [squeeze, hs]

end Readers

/-! ## Declarations of squeezed texts -/

theorem dropIfNotExists_squeeze (cs : List Char) : dropIfNotExists (squeeze cs) = squeeze (dropIfNotExists cs) := by
  have hstep (w : List Char) (hw : w.all (!isBlank ·) = true) (o : Option (List Char)) :
      (o.map squeeze).bind (eatWordBlanks w) = (o.bind (eatWordBlanks w)).map squeeze := by
    cases o with
    | none => rfl
    | some r => exact eatWordBlanks_squeeze hw r
  unfold dropIfNotExists
  simp only [Option.bind_eq_bind, eatWordBlanks_squeeze (w := ['i', 'f']) rfl, hstep ['n', 'o', 't'] rfl,
    hstep ['e', 'x', 'i', 's', 't', 's'] rfl]
  cases ((eatWordBlanks ['i', 'f'] cs).bind (eatWordBlanks ['n', 'o', 't'])).bind
    (eatWordBlanks ['e', 'x', 'i', 's', 't', 's']) <;> rfl

theorem isNameChar_blank {c : Char} (h : isBlank c = true) : isNameChar c = false := by
  have hall : ∀ n ∈ blankCodes, isNameChar (Char.ofNat n) = false := by decide
  have hc := hall c.toNat (mem_blankCodes h)
  rwa [Char.ofNat_toNat] at hc

theorem header?_squeeze (cs : List Char) : header? (squeeze cs) = (header? cs).map fun r => (r.1, squeeze r.2) := by
  simp only [header?, Option.bind_eq_bind, eatWordBlanks_squeeze (w := ['c', 'r', 'e', 'a', 't', 'e']) rfl]
  cases eatWordBlanks ['c', 'r', 'e', 'a', 't', 'e'] cs with
  | none => rfl
  | some r =>
    simp only [Option.map_some, Option.bind_some, eatWordBlanks_squeeze (w := ['t', 'a', 'b', 'l', 'e']) rfl]
    cases eatWordBlanks ['t', 'a', 'b', 'l', 'e'] r with
    | none => rfl
    | some r =>
      simp only [Option.map_some, Option.bind_some, dropIfNotExists_squeeze, dropTick_squeeze,
        eatRun_squeeze_visible (p := isNameChar) (fun c => isNameChar_blank)]
      cases eatRun isNameChar (dropTick (dropIfNotExists r)) with
      | none => rfl
      | some r =>
        simp only [Option.map_some, Option.bind_some, dropTick_squeeze, dropWhile_squeeze, eat_squeeze (c := '(') rfl]
        cases eat '(' ((dropTick r.2).dropWhile isBlank) <;> rfl

theorem header?_blank {c : Char} (h : isBlank c = true) (cs : List Char) : header? (c :: cs) = none := by
  refine header?_cons ?_
  rw [(cases_blank h).2]
  exact ne_of_isBlank h rfl

theorem firstHeader?_blank {c : Char} (h : isBlank c = true) (cs : List Char) : firstHeader? (c :: cs) = firstHeader? cs := by
  rw [firstHeader?, header?_blank h]

theorem firstHeader?_squeezeFrom (b : Bool) (cs : List Char) :
    firstHeader? (squeezeFrom b cs) = (firstHeader? cs).map fun r => (r.1, squeeze r.2) := by
  induction cs generalizing b with
  | nil => rfl
  | cons c cs ih =>
    cases h : isBlank c with
    | true =>
      rw [squeezeFrom, if_pos h, firstHeader?_blank h]
      split
      · exact ih true
      · rw [firstHeader?_blank (by decide), ih]
    | false =>
      have hhere := header?_squeeze (c :: cs)
      rw [squeeze_visible h] at hhere
      rw [squeezeFrom_visible h, firstHeader?, firstHeader?, hhere]
      cases header? (c :: cs) with
      | none => exact ih false
      | some r => rfl

theorem closingParen_squeezeFrom {s : Scan} (hs : s.Proper) (b : Bool) (cs : List Char) :
    closingParen s (squeezeFrom b cs) = (closingParen s cs).map fun r => (squeezeFrom b r.1, squeeze r.2) := by
  induction cs generalizing s b with
  | nil => rfl
  | cons c cs ih =>
    cases h : isBlank c with
    | true =>
      -- A blank leaves the scan as it is, so it does not count how many there are.
      have hskip {x : Char} (hx : isBlank x = true) (r : List Char) :
          closingParen s (x :: r) = (closingParen s r).map fun r => (x :: r.1, r.2) := by
        rw [closingParen, if_neg (by simp [ne_of_isBlank hx (x := ')') rfl]), hs.step_blank hx]
      rw [squeezeFrom, if_pos h, hskip h, Option.map_map]
      split
      · next hb =>
        rw [ih hs, hb]
        simp [Function.comp_def, squeezeFrom_blank h]
      · next hb =>
        rw [hskip rfl, ih hs, Option.map_map]
        rw [Bool.not_eq_true] at hb
        rw [hb]
        simp [Function.comp_def, squeezeFrom, h]
    | false =>
      rw [squeezeFrom_visible h, closingParen, closingParen]
      split
      · rfl
      · rw [squeeze, ih (hs.step c), Option.map_map, Option.map_map]
        simp [Function.comp_def, squeezeFrom_visible h, squeeze]

/-- Pieces of a text that are squeezed, the first one as what comes behind a blank or not. -/
def squeezePieces (b : Bool) : List (List Char) → List (List Char)
  | [] => []
  | p :: ps => squeezeFrom b p :: ps.map squeeze

theorem squeezePieces_false (ps : List (List Char)) : squeezePieces false ps = ps.map squeeze := by
  cases ps <;> rfl

theorem squeezePieces_extendHead_visible {c : Char} (h : isBlank c = false) {ps : List (List Char)} (hne : ps ≠ []) (b : Bool) :
    squeezePieces b (extendHead c ps) = extendHead c (ps.map squeeze) := by
  obtain ⟨p, ps, rfl⟩ := List.exists_cons_of_ne_nil hne
  simp [extendHead, squeezePieces, squeezeFrom_visible h]

theorem squeezePieces_extendHead_blank {c : Char} (h : isBlank c = true) {ps : List (List Char)} (hne : ps ≠ []) (b : Bool) :
    squeezePieces b (extendHead c ps) =
      if b then squeezePieces true ps else extendHead ' ' (squeezePieces true ps) := by
  obtain ⟨p, ps, rfl⟩ := List.exists_cons_of_ne_nil hne
  cases b <;> simp [extendHead, squeezePieces, squeezeFrom, h]

theorem pieces_squeezeFrom {s : Scan} (hs : s.Proper) (b : Bool) (cs : List Char) :
    pieces s (squeezeFrom b cs) = squeezePieces b (pieces s cs) := by
  induction cs generalizing s b with
  | nil => rfl
  | cons c cs ih =>
    have hne := pieces_ne_nil (s.step c) cs
    cases h : isBlank c with
    | true =>
      have hskip {x : Char} (hx : isBlank x = true) (r : List Char) : pieces s (x :: r) = extendHead x (pieces s r) := by
        rw [pieces, if_neg (by simp [ne_of_isBlank hx (x := ',') rfl]), hs.step_blank hx]
      rw [hs.step_blank h] at hne
      rw [squeezeFrom, if_pos h, hskip h, squeezePieces_extendHead_blank h hne]
      split
      · exact ih hs true
      · rw [hskip rfl, ih hs]
    | false =>
      rw [squeezeFrom_visible h, pieces, pieces, squeeze, ih (hs.step c), squeezePieces_false]
      split
      · rfl
      · rw [squeezePieces_extendHead_visible h hne]

theorem pieces_squeeze (cs : List Char) : pieces {} (squeeze cs) = (pieces {} cs).map squeeze := by
  rw [squeeze, pieces_squeezeFrom (Scan.proper_outside 0), squeezePieces_false]

theorem closingParen_squeeze (cs : List Char) :
    closingParen {} (squeeze cs) = (closingParen {} cs).map fun r => (squeeze r.1, squeeze r.2) :=
  closingParen_squeezeFrom (Scan.proper_outside 0) false cs

/-- A declaration with its body squeezed. -/
def Declaration.squeezed (d : Declaration) : Declaration := ⟨d.name, squeeze d.body⟩

theorem firstDeclaration?_squeeze (cs : List Char) :
    firstDeclaration? (squeeze cs) = (firstDeclaration? cs).map fun r => (r.1.squeezed, squeeze r.2) := by
  rw [firstDeclaration?, firstDeclaration?, squeeze, firstHeader?_squeezeFrom]
  cases firstHeader? cs with
  | none => rfl
  | some h =>
    simp only [Option.map_some, Option.bind_some, closingParen_squeeze]
    cases closingParen {} h.2 <;> rfl

/-- A squeezed text has the declarations of the text, squeezed. -/
theorem declarations_squeeze (cs : List Char) : declarations (squeeze cs) = (declarations cs).map Declaration.squeezed := by
  induction cs using declarations.induct with
  | case1 cs h => rw [declarations_of_none h, declarations_of_none (by rw [firstDeclaration?_squeeze, h]; rfl)]; rfl
  | case2 cs d rest h ih =>
    rw [declarations_of_some h, declarations_of_some (by rw [firstDeclaration?_squeeze, h]; rfl), ih]
    rfl

theorem definitions_squeeze (body : List Char) : definitions (squeeze body) = (definitions body).map squeeze := by
  have hempty (p : List Char) : (squeeze p).isEmpty = p.isEmpty := by
    rw [Bool.eq_iff_iff, List.isEmpty_iff, List.isEmpty_iff, squeeze_eq_nil_iff]
  have htrim : ((pieces {} body).map squeeze).map trimChars = ((pieces {} body).map trimChars).map squeeze := by
    rw [List.map_map, List.map_map]
    exact List.map_congr_left fun p _ => trimChars_squeeze p
  rw [definitions, definitions, pieces_squeeze, visible, visible, htrim, List.filter_map]
  simp only [Function.comp_def, hempty]

end SchemaAtlas.Dump
