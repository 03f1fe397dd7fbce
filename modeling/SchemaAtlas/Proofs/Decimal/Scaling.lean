import SchemaAtlas.Proofs.Decimal.Narrowing
import SchemaAtlas.Proofs.Decimal.Powers
/-!
# Decimals computed in double precision

A decimal in the rounding interval of a number in single precision, at most one step of its grid away from
the number, is computed by one product or quotient in double precision. The outcome is rounded twice, and
still lies in the rounding interval (`Stands.inside`).
-/

namespace SchemaAtlas.Decimal

variable {θ τ v w z b g : ℚ} {l q e : ℤ} {m n M : ℕ} {edge : Bool}

/-! ## Boundaries -/

theorem Parted.of_scaled {s : ℚ} (hs : 0 < s) (h : Parted (s * v) (s * z) (s * b) (s * g)) : Parted v z b g := by
  simpa only [Parted, ← mul_add, mul_lt_mul_iff_right₀ hs, mul_right_inj' hs.ne'] using h

/-- Multiples of a power of ten are apart from all boundaries that are less than the power apart. -/
theorem Stands.parted_at (h : Stands θ τ l) (hM : 0 < M) (hM' : M < 2 ^ 25) (hn : 0 < n) (hq : q ≤ l) :
    Parted (n * θ) (n * τ) (M * 2 ^ q) (2 ^ (q - 29)) := by
  obtain ⟨s, rfl⟩ : ∃ s : ℕ, l = q + s := ⟨(l - q).toNat, by omega⟩
  have hp := two_zpow_pos q
  have hl : (2 : ℚ) ^ (q + s : ℤ) = 2 ^ s * 2 ^ q := by rw [two_zpow_add, zpow_natCast, mul_comm]
  rcases Nat.lt_or_ge (2 ^ 25) (2 ^ s * n) with hfar | hnear
  · -- The multiple is too large to be near.
    refine .inr (.inr ?_)
    have hM'' : (M : ℚ) + 1 ≤ 2 ^ 25 := by exact_mod_cast hM'
    have hfar' : (2 : ℚ) ^ 25 + 1 ≤ 2 ^ s * n := by exact_mod_cast hfar
    have hlow : (2 ^ 25 + 1) * 2 ^ q ≤ n * θ := calc
      (2 ^ 25 + 1) * 2 ^ q ≤ 2 ^ s * n * (2 : ℚ) ^ q := mul_le_mul_of_nonneg_right hfar' hp.le
      _ = n * 2 ^ (q + s : ℤ) := by rw [hl]; ring
      _ ≤ n * θ := mul_le_mul_of_nonneg_left h.low (by positivity)
    have hclose : n * θ * (1 - 1 / 2 ^ 52) ≤ n * τ := by
      rw [mul_assoc]
      exact mul_le_mul_of_nonneg_left h.above (by positivity)
    have hbound : (M : ℚ) * 2 ^ q ≤ (2 ^ 25 - 1) * 2 ^ q := mul_le_mul_of_nonneg_right (by linarith) hp.le
    rw [gap_eq]
    constructor <;> norm_num at * <;> linarith
  · have hparted := h.parted hM hM' (n := 2 ^ s * n) (by positivity) hnear
    refine Parted.of_scaled (s := 2 ^ s) (by positivity) ?_
    have hgap : (2 : ℚ) ^ (q + s - 29 : ℤ) = 2 ^ s * 2 ^ (q - 29) := by
      rw [show q + s - 29 = s + (q - 29) by ring, two_zpow_add, zpow_natCast]
    rw [hl, hgap] at hparted
    push_cast at hparted
    convert hparted using 1 <;> ring

/-- A value is on the same side of a boundary as another one. -/
structure Keeps (v w b : ℚ) : Prop where
  below : v < b → w < b
  meets : v = b → w = b
  above : b < v → b < w

/-- Rounding does not cross a boundary from which a value is clearly apart. -/
theorem RoundsTo.keeps (h : RoundsTo z w) (hM : M < 2 ^ 25) (hz : Parted v z (M * 2 ^ q) (2 ^ (q - 29))) :
    Keeps v w (M * 2 ^ q) := by
  rcases hz with ⟨hv, hz⟩ | ⟨hv, rfl⟩ | ⟨hv, hz⟩
  · have := h.lt_of_gap hM hz
    constructor <;> intro <;> linarith
  · have := h.eq_of_bits (show M < 2 ^ 53 by omega)
    constructor <;> intro <;> linarith
  · have := h.gt_of_gap hM hz
    constructor <;> intro <;> linarith

/-- The product or quotient changes a value by one part in `2 ^ 51` at most. -/
theorem Stands.error (h : Stands θ τ l) (hw : RoundsTo (n * τ) w) :
    n * θ * (1 - 1 / 2 ^ 51) ≤ w ∧ w ≤ n * θ * (1 + 1 / 2 ^ 51) := by
  obtain ⟨hlow, hhigh⟩ := hw.error
  have hn : (0 : ℚ) ≤ n := by positivity
  have hθ : 0 ≤ n * θ := mul_nonneg hn (le_trans (two_zpow_pos l).le h.low)
  have habove : n * θ * (1 - 1 / 2 ^ 52) ≤ n * τ := by
    rw [mul_assoc]
    exact mul_le_mul_of_nonneg_left h.above hn
  have hbelow : n * τ ≤ n * θ * (1 + 1 / 2 ^ 52) := by
    rw [mul_assoc]
    exact mul_le_mul_of_nonneg_left h.below hn
  constructor <;> norm_num at * <;> linarith

/-- A power of ten that is less than a power of two is so by a margin. -/
theorem Stands.margin_at (h : Stands θ τ l) (hq : l < q) : θ + 2 ^ q / 2 ^ 20 ≤ 2 ^ q := by
  have hle : (2 : ℚ) ^ (l + 1) ≤ 2 ^ q := zpow_le_zpow_right₀ (by norm_num) (by omega)
  have hmargin := h.margin
  norm_num at hmargin ⊢
  linarith

/-- A boundary that is `2 ^ q` above the number. -/
theorem Stands.keeps_of_le (h : Stands θ τ l) (hw : RoundsTo (n * τ) w) (hn : 0 < n) (hM : 0 < M)
    (hM' : M < 2 ^ 25) (hv : n * θ + 2 ^ q ≤ M * 2 ^ q + θ) : Keeps (n * θ) w (M * 2 ^ q) := by
  rcases le_or_gt q l with hle | hlt
  · exact hw.keeps hM' (h.parted_at hM hM' hn hle)
  · have hp := two_zpow_pos q
    have hmargin := h.margin_at hlt
    have herror := (h.error hw).2
    have hbound : (M : ℚ) * 2 ^ q ≤ 2 ^ 25 * 2 ^ q := mul_le_mul_of_nonneg_right (by exact_mod_cast hM'.le) hp.le
    have hlt : n * θ < M * 2 ^ q := by linarith
    have hlt' : w < M * 2 ^ q := by norm_num at *; linarith
    constructor <;> intro <;> linarith

/-- A boundary that is `2 ^ q` below the number. -/
theorem Stands.keeps_of_ge (h : Stands θ τ l) (hw : RoundsTo (n * τ) w) (hn : 0 < n) (hM : 0 < M)
    (hM' : M < 2 ^ 25) (hv : M * 2 ^ q + 2 ^ q ≤ n * θ + θ) (hbound : n * θ ≤ 2 ^ 26 * 2 ^ q) :
    Keeps (n * θ) w (M * 2 ^ q) := by
  rcases le_or_gt q l with hle | hlt
  · exact hw.keeps hM' (h.parted_at hM hM' hn hle)
  · have hp := two_zpow_pos q
    have hmargin := h.margin_at hlt
    have herror := (h.error hw).1
    have hgt : M * 2 ^ q < n * θ := by linarith
    have hgt' : M * 2 ^ q < w := by norm_num at *; linarith
    constructor <;> intro <;> linarith

/-! ## Rounding intervals -/

theorem upper_eq (m : ℕ) (e : ℤ) : upper m e = (2 * m + 1 : ℕ) * 2 ^ (e - 1) := by
  rw [upper, zpow_sub_one₀ (by norm_num)]
  push_cast
  ring

theorem lower_eq (hm : 0 < m) (e : ℤ) : lower m e false = (2 * m - 1 : ℕ) * 2 ^ (e - 1) := by
  rw [lower, zpow_sub_one₀ (by norm_num), Nat.cast_sub (by omega)]
  push_cast
  ring

theorem lower_edge_eq (hm : 0 < m) (e : ℤ) : lower m e true = (4 * m - 1 : ℕ) * 2 ^ (e - 2) := by
  rw [lower, if_pos rfl, zpow_sub₀ (by norm_num), Nat.cast_sub (by omega)]
  push_cast
  ring

/-- The ends of a rounding interval are not crossed. -/
theorem Inside.of_keeps (h : Inside m e edge v) (hlow : Keeps v w (lower m e edge))
    (hhigh : Keeps v w (upper m e)) : Inside m e edge w := by
  refine ⟨?_, ?_, fun hodd => ⟨hlow.above (h.odd hodd).1, hhigh.below (h.odd hodd).2⟩⟩
  · rcases eq_or_lt_of_le h.low with heq | hlt
    · exact (hlow.meets heq.symm).ge
    · exact (hlow.above hlt).le
  · rcases eq_or_lt_of_le h.high with heq | hlt
    · exact (hhigh.meets heq).le
    · exact (hhigh.below hlt).le

/-- A decimal in a rounding interval, at most one step of its grid from the number, stays in the interval. -/
theorem Stands.inside (h : Stands θ τ l) (hw : RoundsTo (n * τ) w) (hn : 0 < n) (hm : 0 < m) (hm' : m < 2 ^ 24)
    (hedge : edge = true → m = 2 ^ 23) (hv : Inside m e edge (n * θ)) (hlow : m * 2 ^ e ≤ n * θ + θ)
    (hhigh : n * θ ≤ m * 2 ^ e + θ) : Inside m e edge w := by
  have hp := two_zpow_pos (e - 2)
  have hone : (2 : ℚ) ^ (e - 1) = 2 * 2 ^ (e - 2) := by
    rw [← zpow_one_add₀ (by norm_num)]
    congr 1
    ring
  have htwo : (2 : ℚ) ^ e = 4 * 2 ^ (e - 2) := by
    rw [zpow_sub₀ (by norm_num)]
    ring
  have hbound : n * θ ≤ 2 ^ 25 * 2 ^ (e - 1) := by
    refine le_trans hv.high ?_
    rw [upper_eq]
    exact mul_le_mul_of_nonneg_right (by exact_mod_cast (by omega)) (two_zpow_pos _).le
  refine hv.of_keeps ?_ ?_
  · cases edge with
    | false =>
      rw [lower_eq hm]
      refine h.keeps_of_ge hw hn (by omega) (by omega) ?_ (by norm_num at *; linarith)
      rw [← lower_eq hm, lower, hone]
      simp only [Bool.false_eq_true, if_false]
      linarith
    | true =>
      have hfull := hedge rfl
      rw [lower_edge_eq hm]
      refine h.keeps_of_ge hw hn (by omega) (by omega) ?_ (by norm_num at *; linarith)
      rw [← lower_edge_eq hm, lower, if_pos rfl]
      linarith
  · rw [upper_eq]
    refine h.keeps_of_le hw hn (by omega) (by omega) ?_
    rw [← upper_eq, upper, hone]
    linarith

end SchemaAtlas.Decimal
