import SchemaAtlas.Proofs.Text.Letter
import SchemaAtlas.Proofs.Text.Trim
/-!
# Spacing

`squeeze` makes every run of blanks one space, so two texts have the same squeezed form exactly if
they differ in the blanks between their words only (`squeeze_replace`). Cutting a text at a character
that is no blank, reading a run, trimming and upper case go along with squeezing.
-/

namespace SchemaAtlas.Text

/-- A text with every run of blanks made one space, but for a run at its start if a blank came before. -/
def squeezeFrom (afterBlank : Bool) : List Char → List Char
  | [] => []
  | c :: cs =>
    if isBlank c then if afterBlank then squeezeFrom true cs else ' ' :: squeezeFrom true cs
    else c :: squeezeFrom false cs

/-- A text with every run of blanks made one space. -/
def squeeze (cs : List Char) : List Char := squeezeFrom false cs

variable {b : Bool} {c x : Char} {cs : List Char}

theorem squeezeFrom_blank (h : isBlank c = true) : squeezeFrom true (c :: cs) = squeezeFrom true cs := by
  simp [squeezeFrom, h]

theorem squeeze_blank (h : isBlank c = true) : squeeze (c :: cs) = ' ' :: squeezeFrom true cs := by
  simp [squeeze, squeezeFrom, h]

theorem squeezeFrom_visible (h : isBlank c = false) : squeezeFrom b (c :: cs) = c :: squeeze cs := by
  simp [squeeze, squeezeFrom, h]

theorem squeeze_visible (h : isBlank c = false) : squeeze (c :: cs) = c :: squeeze cs := squeezeFrom_visible h

/-- Behind a blank, the blanks at the start are dropped. -/
theorem squeezeFrom_true (cs : List Char) : squeezeFrom true cs = squeeze (cs.dropWhile isBlank) := by
  induction cs with
  | nil => rfl
  | cons c cs ih =>
    cases h : isBlank c with
    | true => rw [squeezeFrom_blank h, ih, List.dropWhile_cons_of_pos h]
    | false => rw [squeezeFrom_visible h, List.dropWhile_cons_of_neg (by simp [h]), squeeze_visible h]

theorem head?_squeezeFrom_true : ∀ c, (squeezeFrom true cs).head? = some c → isBlank c = false := by
  induction cs with
  | nil => simp [squeezeFrom]
  | cons x cs ih =>
    cases h : isBlank x with
    | true => rwa [squeezeFrom_blank h]
    | false =>
      rw [squeezeFrom_visible h]
      rintro c ⟨rfl⟩
      exact h

theorem dropWhile_squeeze (cs : List Char) : (squeeze cs).dropWhile isBlank = squeeze (cs.dropWhile isBlank) := by
  cases cs with
  | nil => rfl
  | cons c cs =>
    cases h : isBlank c with
    | true =>
      rw [squeeze_blank h, List.dropWhile_cons_of_pos (by decide), List.dropWhile_cons_of_pos h, ← squeezeFrom_true,
        dropWhile_eq_self head?_squeezeFrom_true]
    | false =>
      rw [squeeze_visible h, List.dropWhile_cons_of_neg (by simp [h]), List.dropWhile_cons_of_neg (by simp [h]),
        squeeze_visible h]

theorem squeezeFrom_run {r : List Char} (h : r.all isBlank = true) (d : List Char) :
    squeezeFrom true (r ++ d) = squeezeFrom true d := by
  induction r with
  | nil => rfl
  | cons c r ih =>
    rw [List.all_cons, Bool.and_eq_true] at h
    rw [List.cons_append, squeezeFrom_blank h.1, ih h.2]

theorem squeezeFrom_gap {r : List Char} (h : IsGap r) (b : Bool) (d : List Char) :
    squeezeFrom b (r ++ d) = if b then squeezeFrom true d else ' ' :: squeezeFrom true d := by
  obtain ⟨c, r, rfl⟩ := List.exists_cons_of_ne_nil h.1
  have hblank := h.2
  rw [List.all_cons, Bool.and_eq_true] at hblank
  rw [List.cons_append, squeezeFrom, if_pos hblank.1, squeezeFrom_run hblank.2]

/-- A run of blanks may be replaced by any other. -/
theorem squeeze_replace {r r' : List Char} (h : IsGap r) (h' : IsGap r') (a d : List Char) :
    squeeze (a ++ r ++ d) = squeeze (a ++ r' ++ d) := by
  rw [List.append_assoc, List.append_assoc, squeeze, squeeze]
  generalize false = b
  induction a generalizing b with
  | nil => rw [List.nil_append, List.nil_append, squeezeFrom_gap h, squeezeFrom_gap h']
  | cons c a ih =>
    rw [List.cons_append, List.cons_append, squeezeFrom, squeezeFrom, ih, ih]

/-! ## Runs of one kind -/

section Runs

variable {p : Char → Bool}

/-- A run that ends at blanks is the same. -/
theorem takeWhile_squeeze_visible (hp : ∀ c, isBlank c = true → p c = false) (cs : List Char) :
    (squeeze cs).takeWhile p = cs.takeWhile p := by
  induction cs with
  | nil => rfl
  | cons c cs ih =>
    cases h : isBlank c with
    | true =>
      rw [squeeze_blank h, List.takeWhile_cons_of_neg (by simp [hp ' ' rfl]), List.takeWhile_cons_of_neg (by simp [hp c h])]
    | false => rw [squeeze_visible h, List.takeWhile_cons, List.takeWhile_cons, ih]

theorem dropWhile_squeeze_visible (hp : ∀ c, isBlank c = true → p c = false) (cs : List Char) :
    (squeeze cs).dropWhile p = squeeze (cs.dropWhile p) := by
  induction cs with
  | nil => rfl
  | cons c cs ih =>
    cases h : isBlank c with
    | true =>
      rw [squeeze_blank h, List.dropWhile_cons_of_neg (by simp [hp ' ' rfl]), List.dropWhile_cons_of_neg (by simp [hp c h]),
        squeeze_blank h]
    | false =>
      rw [squeeze_visible h, List.dropWhile_cons, List.dropWhile_cons, ih]
      split
      · rfl
      · rw [squeeze_visible h]

/-- A run that goes on over blanks is squeezed. -/
theorem takeWhile_squeezeFrom (hp : ∀ c, isBlank c = true → p c = true) (b : Bool) (cs : List Char) :
    (squeezeFrom b cs).takeWhile p = squeezeFrom b (cs.takeWhile p) := by
  induction cs generalizing b with
  | nil => rfl
  | cons c cs ih =>
    cases h : isBlank c with
    | true =>
      rw [List.takeWhile_cons_of_pos (hp c h), squeezeFrom, squeezeFrom, if_pos h, if_pos h]
      split
      · exact ih true
      · rw [List.takeWhile_cons_of_pos (hp ' ' rfl), ih]
    | false =>
      rw [squeezeFrom_visible h, List.takeWhile_cons, List.takeWhile_cons, squeeze, ih]
      split
      · rw [squeezeFrom_visible h]; rfl
      · rfl

theorem dropWhile_squeezeFrom (hp : ∀ c, isBlank c = true → p c = true) (b : Bool) (cs : List Char) :
    (squeezeFrom b cs).dropWhile p = squeeze (cs.dropWhile p) := by
  induction cs generalizing b with
  | nil => rfl
  | cons c cs ih =>
    cases h : isBlank c with
    | true =>
      rw [List.dropWhile_cons_of_pos (hp c h), squeezeFrom, if_pos h]
      split
      · exact ih true
      · rw [List.dropWhile_cons_of_pos (hp ' ' rfl), ih]
    | false =>
      rw [squeezeFrom_visible h, List.dropWhile_cons, List.dropWhile_cons, squeeze, ih]
      split
      · rfl
      · rw [squeeze_visible h]; rfl

end Runs

/-! ## Both ends -/

theorem squeezeFrom_append (b : Bool) (cs d : List Char) :
    squeezeFrom b (cs ++ d) = squeezeFrom b cs ++ squeezeFrom (cs.foldl (fun _ c => isBlank c) b) d := by
  induction cs generalizing b with
  | nil => rfl
  | cons c cs ih =>
    cases h : isBlank c with
    | true =>
      rw [List.cons_append, squeezeFrom, squeezeFrom, if_pos h, if_pos h, ih, List.foldl_cons, h]
      split <;> rfl
    | false => rw [List.cons_append, squeezeFrom_visible h, squeezeFrom_visible h, squeeze, squeeze, ih, List.foldl_cons, h]; rfl

/-- Squeezing does not care from which side a text is read. -/
theorem squeeze_reverse (cs : List Char) : squeeze cs.reverse = (squeeze cs).reverse := by
  induction cs with
  | nil => rfl
  | cons c cs ih =>
    rw [List.reverse_cons, squeeze, squeezeFrom_append, ← squeeze, ih, List.foldl_reverse]
    cases h : isBlank c with
    | false => rw [squeeze_visible h, squeezeFrom_visible h, List.reverse_cons]; rfl
    | true =>
      rw [squeeze_blank h, List.reverse_cons]
      cases cs with
      | nil => simp [squeezeFrom, h, squeeze]
      | cons x cs =>
        rw [List.foldr_cons]
        cases hx : isBlank x with
        | true =>
          have hc : squeezeFrom true [c] = [] := by simp [squeezeFrom, h]
          rw [hc, squeezeFrom_true, List.dropWhile_cons_of_pos hx, ← squeezeFrom_true, squeeze_blank hx, List.append_nil,
            List.reverse_cons]
        | false =>
          have hc : squeezeFrom false [c] = [' '] := by simp [squeezeFrom, h]
          rw [hc, squeezeFrom_visible hx, squeeze_visible hx]

/-- Dropping characters from both ends goes along with squeezing if dropping them from the front does. -/
theorem stripBoth_squeeze {p : Char → Bool} (hp : ∀ cs, (squeeze cs).dropWhile p = squeeze (cs.dropWhile p)) (cs : List Char) :
    stripBoth p (squeeze cs) = squeeze (stripBoth p cs) := by
  rw [stripBoth, stripBoth, hp, ← squeeze_reverse, hp, squeeze_reverse]

theorem trimChars_squeeze (cs : List Char) : trimChars (squeeze cs) = squeeze (trimChars cs) :=
  stripBoth_squeeze dropWhile_squeeze cs

/-! ## Texts without blanks -/

/-- The only blank of a squeezed text is the space. -/
theorem not_mem_squeezeFrom (hc : isBlank c = true) (hspace : c ≠ ' ') (b : Bool) (cs : List Char) : c ∉ squeezeFrom b cs := by
  induction cs generalizing b with
  | nil => exact List.not_mem_nil
  | cons x cs ih =>
    rw [squeezeFrom]
    split
    · split
      · exact ih true
      · rw [List.mem_cons, not_or]
        exact ⟨hspace, ih true⟩
    · next hx =>
      rw [List.mem_cons, not_or]
      refine ⟨?_, ih false⟩
      rintro rfl
      exact hx hc

theorem squeeze_eq_self (h : ∀ c ∈ cs, isBlank c = false) : squeeze cs = cs := by
  induction cs with
  | nil => rfl
  | cons c cs ih => rw [squeeze_visible (h c List.mem_cons_self), ih fun x hx => h x (List.mem_cons_of_mem _ hx)]

/-- A text that becomes one without blanks has none. -/
theorem eq_of_squeeze {d : List Char} (hd : ∀ c ∈ d, isBlank c = false) : squeeze cs = d ↔ cs = d := by
  constructor
  · rintro rfl
    refine (squeeze_eq_self fun x hx => ?_).symm
    induction cs with
    | nil => cases hx
    | cons c cs ih =>
      cases h : isBlank c with
      | true =>
        rw [squeeze_blank h] at hd
        exact absurd (hd ' ' List.mem_cons_self) (by decide)
      | false =>
        rw [squeeze_visible h] at hd
        rcases List.mem_cons.1 hx with rfl | hx
        · exact h
        · exact ih (fun y hy => hd y (List.mem_cons_of_mem _ hy)) hx
  · rintro rfl
    exact squeeze_eq_self hd

theorem squeeze_eq_nil_iff : squeeze cs = [] ↔ cs = [] := eq_of_squeeze (by simp)

/-! ## Upper case -/

theorem squeezeFrom_append_of_visible {a : List Char} (ha : ∀ x ∈ a, isBlank x = false) (hne : a ≠ []) (d : List Char) :
    squeezeFrom b (a ++ d) = a ++ squeeze d := by
  induction a generalizing b with
  | nil => exact absurd rfl hne
  | cons x a ih =>
    rw [List.cons_append, squeezeFrom_visible (ha x List.mem_cons_self)]
    cases a with
    | nil => rfl
    | cons y a => rw [squeeze, ih (fun z hz => ha z (List.mem_cons_of_mem _ hz)) (List.cons_ne_nil _ _)]; rfl

theorem upperChars_squeezeFrom (b : Bool) (cs : List Char) : upperChars (squeezeFrom b cs) = squeezeFrom b (upperChars cs) := by
  induction cs generalizing b with
  | nil => rfl
  | cons c cs ih =>
    cases h : isBlank c with
    | true =>
      rw [upperChars_cons, (cases_blank h).1, List.singleton_append, squeezeFrom, squeezeFrom, if_pos h, if_pos h, ← ih]
      split <;> rfl
    | false =>
      have hrest := squeezeFrom_append_of_visible (b := b) (upperChar_visible h) (upperChar_ne_nil c) (upperChars cs)
      rw [squeezeFrom_visible h, upperChars_cons, upperChars_cons, hrest, squeeze, squeeze, ih]

theorem upperChars_squeeze (cs : List Char) : upperChars (squeeze cs) = squeeze (upperChars cs) := upperChars_squeezeFrom false cs

end SchemaAtlas.Text
