import Mathlib.Tactic.Linarith
import Mathlib.Tactic.Ring
/-!
# Fractions with small parts near a ratio

A product with a power of ten is rounded wrongly only if it comes too near to a number between two
mantissas, which means that a fraction with small parts comes too near to the ratio of a power of ten to a
power of two. All fractions between two others have at least the parts of their mediant, so a walk down
the mediants that stay near the ratio sees the nearest ones (`apart_of_clear`).
-/

namespace SchemaAtlas.Decimal

/-- A ratio of natural numbers. -/
structure Ratio where
  num : ℕ
  den : ℕ

namespace Ratio

/-- `m` falls short of `n` times the ratio `x`, and by more than `2 ^ -29` of `n` times the ratio `y` that
stands in for it. -/
def below (x y : Ratio) (m n : ℕ) : Bool :=
  decide (m * x.den < n * x.num) && decide (m * y.den * 2 ^ 29 + y.den < n * y.num * 2 ^ 29)

/-- `m` exceeds `n` times the ratio `x`, and by more than `2 ^ -29` `n` times the ratio `y` that stands in
for it. -/
def above (x y : Ratio) (m n : ℕ) : Bool :=
  decide (n * x.num < m * x.den) && decide (n * y.num * 2 ^ 29 + y.den < m * y.den * 2 ^ 29)

/-- No fraction between `a / b` and `c / d` with parts of 25 bits is near the ratio: the mediant is clearly
on one side, and so is what lies on that side of it. -/
def clear (x y : Ratio) : (fuel : ℕ) → (a b c d : ℕ) → Bool
  | 0, _, _, _, _ => false
  | fuel + 1, a, b, c, d =>
    if 2 ^ 25 ≤ a + c || 2 ^ 25 < b + d then true
    else if below x y (a + c) (b + d) then clear x y fuel (a + c) (b + d) c d
    else if above x y (a + c) (b + d) then clear x y fuel a b (a + c) (b + d)
    else false

/-- The ratio lies between `a / b` and `c / d`. -/
structure Between (x : Ratio) (a b c d : ℕ) : Prop where
  low : a * x.den ≤ b * x.num
  high : d * x.num ≤ c * x.den

variable {x y : Ratio} {a b c d m n : ℕ}

theorem below_iff :
    below x y m n = true ↔ m * x.den < n * x.num ∧ m * y.den * 2 ^ 29 + y.den < n * y.num * 2 ^ 29 := by
  simp only [below, Bool.and_eq_true, decide_eq_true_eq]

theorem above_iff :
    above x y m n = true ↔ n * x.num < m * x.den ∧ n * y.num * 2 ^ 29 + y.den < m * y.den * 2 ^ 29 := by
  simp only [above, Bool.and_eq_true, decide_eq_true_eq]

/-- Between a fraction below the ratio and one clearly below it, all fractions are clearly below it. -/
theorem below_add (h : below x y m n = true) (hx : a * x.den ≤ b * x.num) (hy : a * y.den ≤ b * y.num)
    (i : ℕ) {j : ℕ} (hj : 0 < j) : below x y (i * a + j * m) (i * b + j * n) = true := by
  rw [below_iff] at h ⊢
  obtain ⟨hlt, hgap⟩ := h
  have hx' := Nat.mul_le_mul_left i hx
  have hy' := Nat.mul_le_mul_left (i * 2 ^ 29) hy
  have hlt' := Nat.mul_lt_mul_of_pos_left hlt hj
  have hgap' := Nat.mul_lt_mul_of_pos_left hgap hj
  have hden := Nat.le_mul_of_pos_left y.den hj
  constructor <;> linarith

theorem above_add (h : above x y m n = true) (hx : d * x.num ≤ c * x.den) (hy : d * y.num ≤ c * y.den)
    (i : ℕ) {j : ℕ} (hj : 0 < j) : above x y (i * c + j * m) (i * d + j * n) = true := by
  rw [above_iff] at h ⊢
  obtain ⟨hlt, hgap⟩ := h
  have hx' := Nat.mul_le_mul_left i hx
  have hy' := Nat.mul_le_mul_left (i * 2 ^ 29) hy
  have hlt' := Nat.mul_lt_mul_of_pos_left hlt hj
  have hgap' := Nat.mul_lt_mul_of_pos_left hgap hj
  have hden := Nat.le_mul_of_pos_left y.den hj
  constructor <;> linarith

/-- Every fraction between the two that is not too large is clearly on one side. -/
theorem apart_of_clear_between {fuel : ℕ} (h : clear x y fuel a b c d = true) (hx : Between x a b c d)
    (hy : Between y a b c d) {i j : ℕ} (hi : 0 < i) (hj : 0 < j) (hm : i * a + j * c < 2 ^ 25)
    (hn : i * b + j * d ≤ 2 ^ 25) :
    below x y (i * a + j * c) (i * b + j * d) = true ∨ above x y (i * a + j * c) (i * b + j * d) = true := by
  -- The induction follows the walk; the fraction is on one side of the mediant, or at it.
  induction fuel generalizing a b c d i j with
  | zero => exact absurd h (by simp [clear])
  | succ fuel ih =>
    have ha := Nat.le_mul_of_pos_left a hi
    have hb := Nat.le_mul_of_pos_left b hi
    have hc := Nat.le_mul_of_pos_left c hj
    have hd := Nat.le_mul_of_pos_left d hj
    rw [clear, if_neg (by simp only [Bool.or_eq_true, decide_eq_true_eq]; omega)] at h
    split at h
    · next hbelow =>
      obtain ⟨hbx, hby⟩ := below_iff.1 hbelow
      rcases Nat.lt_or_ge i j with hlt | hge
      · obtain ⟨k, rfl⟩ := Nat.exists_eq_add_of_lt hlt
        have hsum : ∀ p q : ℕ, i * p + (i + k + 1) * q = i * (p + q) + (k + 1) * q := fun p q => by ring
        rw [hsum, hsum] at *
        exact ih h ⟨by omega, hx.high⟩ ⟨by omega, hy.high⟩ hi (by omega) hm hn
      · obtain ⟨k, rfl⟩ := Nat.exists_eq_add_of_le hge
        have hsum : ∀ p q : ℕ, (j + k) * p + j * q = k * p + j * (p + q) := fun p q => by ring
        rw [hsum, hsum]
        exact .inl (below_add hbelow hx.low hy.low k hj)
    · split at h
      · next habove =>
        obtain ⟨hax, hay⟩ := above_iff.1 habove
        rcases Nat.lt_or_ge j i with hlt | hge
        · obtain ⟨k, rfl⟩ := Nat.exists_eq_add_of_lt hlt
          have hsum : ∀ p q : ℕ, (j + k + 1) * p + j * q = (k + 1) * p + j * (p + q) := fun p q => by ring
          rw [hsum, hsum] at *
          exact ih h ⟨hx.low, by omega⟩ ⟨hy.low, by omega⟩ (by omega) hj hm hn
        · obtain ⟨k, rfl⟩ := Nat.exists_eq_add_of_le hge
          have hsum : ∀ p q : ℕ, i * p + (i + k) * q = k * q + i * (p + q) := fun p q => by ring
          rw [hsum, hsum]
          exact .inr (above_add habove hx.high hy.high k hi)
      · cases h

/-- Every fraction with parts of 25 bits is clearly on one side of the ratio. -/
theorem apart_of_clear {fuel : ℕ} (h : clear x y fuel 0 1 1 0 = true) (hm : 0 < m) (hm' : m < 2 ^ 25) (hn : 0 < n)
    (hn' : n ≤ 2 ^ 25) : below x y m n = true ∨ above x y m n = true := by
  have hsplit := apart_of_clear_between h ⟨by omega, by omega⟩ ⟨by omega, by omega⟩ hn hm (by omega) (by omega)
  simpa using hsplit

end Ratio

end SchemaAtlas.Decimal
