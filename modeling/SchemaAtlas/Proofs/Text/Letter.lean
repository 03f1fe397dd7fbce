import SchemaAtlas.Text.Blank
import SchemaAtlas.Text.Letter
/-!
# Letters and blanks

A blank has neither case, and no blank comes into a text by writing it in upper case
(`upperChar_visible`). A word that is spelled in any case is recognised in both ways: it is the word
in upper case (`upperChars_of_spells`), and it is read as the word (`eatWord_of_spells`).
-/

namespace SchemaAtlas.Text

/-! ## Blanks -/

variable {c : Char}

theorem ne_of_isBlank {x : Char} (hc : isBlank c = true) (hx : isBlank x = false) : c ≠ x := by
  rintro rfl
  rw [hc] at hx
  cases hx

/-- One blank or more. -/
def IsGap (cs : List Char) : Prop := cs ≠ [] ∧ cs.all isBlank = true

instance (cs : List Char) : Decidable (IsGap cs) := inferInstanceAs (Decidable (_ ∧ _))

/-- What holds of each code point of ASCII holds of each of its characters. -/
theorem forall_ascii {P : Char → Prop} (h : ∀ n < 0x80, P (Char.ofNat n)) (hc : c.toNat < 0x80) : P c := by
  have hn := h c.toNat hc
  rwa [Char.ofNat_toNat] at hn

/-- The code points of the blanks. -/
def blankCodes : List Nat :=
  [9, 10, 11, 12, 13, 0x20, 0x85, 0xA0, 0x1680, 0x2000, 0x2001, 0x2002, 0x2003, 0x2004, 0x2005, 0x2006, 0x2007, 0x2008,
    0x2009, 0x200A, 0x2028, 0x2029, 0x202F, 0x205F, 0x3000]

theorem mem_blankCodes (h : isBlank c = true) : c.toNat ∈ blankCodes := by
  simp only [isBlank, Bool.or_eq_true, Bool.and_eq_true, decide_eq_true_eq, beq_iff_eq] at h
  simp only [blankCodes, List.mem_cons, List.not_mem_nil, or_false]
  omega

/-- A blank has neither case. -/
theorem cases_blank (h : isBlank c = true) : upperChar c = [c] ∧ foldCase c = c := by
  have hall : ∀ n ∈ blankCodes, upperChar (Char.ofNat n) = [Char.ofNat n] ∧ foldCase (Char.ofNat n) = Char.ofNat n := by
    decide
  have hc := hall c.toNat (mem_blankCodes h)
  rwa [Char.ofNat_toNat] at hc

/-- The upper-case form of a character: that of ASCII, one of the special forms, or the character. -/
theorem upperChar_cases (c : Char) :
    (c.toNat < 0x80 ∧ upperChar c = [c.toUpper]) ∨ (∃ e ∈ upperSpecial, upperChar c = e.2) ∨ upperChar c = [c] := by
  unfold upperChar
  split
  · next hlt => exact .inl ⟨hlt, rfl⟩
  · cases hl : upperSpecial.lookup c.toNat with
    | none => exact .inr (.inr rfl)
    | some v =>
      obtain ⟨a, d, had, -⟩ := List.lookup_eq_some_iff.1 hl
      exact .inr (.inl ⟨_, had ▸ List.mem_append_right a List.mem_cons_self, rfl⟩)

theorem upperChar_visible (h : isBlank c = false) : ∀ x ∈ upperChar c, isBlank x = false := by
  have hhigh : ∀ e ∈ upperSpecial, e.2.all (!isBlank ·) = true := by decide
  rcases upperChar_cases c with ⟨hlt, hu⟩ | ⟨e, he, hu⟩ | hu
  · have hupper : isBlank c.toUpper = false :=
      forall_ascii (P := fun c => isBlank c = false → isBlank c.toUpper = false) (by decide) hlt h
    simpa [hu] using hupper
  · rw [hu]
    intro x hx
    simpa using List.all_eq_true.1 (hhigh e he) x hx
  · simpa [hu] using h

theorem upperChar_ne_nil (c : Char) : upperChar c ≠ [] := by
  have hhigh : ∀ e ∈ upperSpecial, e.2 ≠ [] := by decide
  rcases upperChar_cases c with ⟨-, hu⟩ | ⟨e, he, hu⟩ | hu
  · rw [hu]
    exact List.cons_ne_nil _ _
  · rw [hu]
    exact hhigh e he
  · rw [hu]
    exact List.cons_ne_nil _ _

theorem upperChars_cons (c : Char) (cs : List Char) : upperChars (c :: cs) = upperChar c ++ upperChars cs := rfl

theorem upperChars_append (a b : List Char) : upperChars (a ++ b) = upperChars a ++ upperChars b := by
  simp [upperChars]

/-! ## Words in any case -/

/-- A text that spells a word of capital letters, in any case. -/
def Spells (w cs : List Char) : Prop := cs.map Char.toUpper = w

instance (w cs : List Char) : Decidable (Spells w cs) := inferInstanceAs (Decidable (_ = _))

theorem toNat_of_toUpper {c : Char} (h : c.toUpper.isUpper = true) : c.toNat < 0x80 := by
  have hle : c.toUpper.toNat ≤ 90 := by
    have hbounds : c.toUpper.val ≥ 'A'.val ∧ c.toUpper.val ≤ 'Z'.val := of_decide_eq_true h
    exact UInt32.le_iff_toNat_le.1 hbounds.2
  unfold Char.toUpper at hle
  split at hle
  · next hc =>
    have := UInt32.le_iff_toNat_le.1 hc.2
    exact Nat.lt_of_le_of_lt this (by decide)
  · exact Nat.lt_of_le_of_lt hle (by decide)

theorem letter_of_toUpper {c : Char} (h : c.toUpper.isUpper = true) :
    upperChar c = [c.toUpper] ∧ foldCase c = c.toUpper.toLower ∧ isBlank c = false ∧ c ≠ '`' := by
  exact forall_ascii (P := fun c => c.toUpper.isUpper = true →
    upperChar c = [c.toUpper] ∧ foldCase c = c.toUpper.toLower ∧ isBlank c = false ∧ c ≠ '`') (by decide)
    (toNat_of_toUpper h) h

variable {w cs : List Char}

theorem Spells.letters (h : Spells w cs) (hw : w.all Char.isUpper = true) {c : Char} (hc : c ∈ cs) :
    c.toUpper.isUpper = true :=
  List.all_eq_true.1 hw _ (h ▸ List.mem_map_of_mem hc)

theorem upperChars_of_spells (h : Spells w cs) (hw : w.all Char.isUpper = true) : upperChars cs = w := by
  induction cs generalizing w with
  | nil => exact h
  | cons c cs ih =>
    have hc := (letter_of_toUpper (h.letters hw List.mem_cons_self)).1
    cases h
    rw [List.map_cons, List.all_cons, Bool.and_eq_true] at hw
    rw [upperChars_cons, hc, ih rfl hw.2]
    rfl

theorem eatWord_of_spells (h : Spells w cs) (hw : w.all Char.isUpper = true) (rest : List Char) :
    eatWord (w.map Char.toLower) (cs ++ rest) = some rest := by
  induction cs generalizing w with
  | nil => cases h; rfl
  | cons c cs ih =>
    have hc := (letter_of_toUpper (h.letters hw List.mem_cons_self)).2.1
    cases h
    rw [List.map_cons, List.all_cons, Bool.and_eq_true] at hw
    simp only [List.map_cons, List.cons_append, eatWord, hc, beq_self_eq_true, if_true]
    exact ih rfl hw.2

end SchemaAtlas.Text
