import SchemaAtlas.Decimal.Narrow
import SchemaAtlas.Proofs.Decimal.Packing
/-!
# Arithmetic in double precision

Natural numbers of 53 bits are exact in double precision, and a product or a quotient is the exact value
rounded once to 53 bits (`isDouble_ofNat`, `isDouble_mul`, `isDouble_div`). What lies in the rounding
interval of a number in single precision is narrowed to that number (`narrow_eq`).
-/

namespace SchemaAtlas.Decimal

open Float.Model (Format UnpackedFloat totalExponent)
open Float.Model.UnpackedFloat

/-! ## Values rounded to 53 bits -/

/-- A value is rounded to 53 bits. -/
def RoundsTo (v w : ℚ) : Prop :=
  ∃ (e : ℤ) (r : ℕ), 2 ^ 52 * 2 ^ e ≤ v ∧ v < 2 ^ 53 * 2 ^ e ∧ Nearest r (v / 2 ^ e) ∧ w = r * 2 ^ e

/-- The leading bit of one value is not above that of a larger one. -/
theorem exponent_le {k : ℕ} {a b : ℤ} (h : (2 : ℚ) ^ k * 2 ^ a < 2 ^ (k + 1) * 2 ^ b) : a ≤ b := by
  rw [pow_succ, mul_assoc, mul_lt_mul_iff_right₀ (by positivity), ← zpow_one_add₀ (by norm_num),
    zpow_lt_zpow_iff_right₀ (by norm_num)] at h
  omega

/-- A value of 53 bits stays as it is. -/
theorem RoundsTo.eq_of_bits {k : ℕ} {j : ℤ} {w : ℚ} (h : RoundsTo (k * 2 ^ j) w) (hk : k < 2 ^ 53) :
    w = k * 2 ^ j := by
  obtain ⟨e, r, hlow, -, hr, rfl⟩ := h
  have hk' : (k : ℚ) < 2 ^ 53 := by exact_mod_cast hk
  obtain ⟨i, rfl⟩ : ∃ i : ℕ, j = e + i := by
    have hle : e ≤ j := exponent_le (k := 52) (lt_of_le_of_lt hlow (mul_lt_mul_of_pos_right hk' (two_zpow_pos j)))
    exact ⟨(j - e).toNat, by omega⟩
  have hvalue : (k : ℚ) * 2 ^ (e + i : ℤ) / 2 ^ e = (k * 2 ^ i : ℕ) := by
    rw [two_zpow_add, zpow_natCast]
    push_cast
    field_simp
  rw [hvalue] at hr
  rw [hr.eq_of_natCast, two_zpow_add, zpow_natCast]
  push_cast
  ring

/-- A value changes by one part in 2^53 at most. -/
theorem RoundsTo.error {v w : ℚ} (h : RoundsTo v w) : v * (1 - 1 / 2 ^ 53) ≤ w ∧ w ≤ v * (1 + 1 / 2 ^ 53) := by
  obtain ⟨e, r, hlow, -, hr, rfl⟩ := h
  have hp := two_zpow_pos e
  have hl := hr.low
  have hh := hr.high
  rw [le_div_iff₀ hp] at hl
  rw [div_le_iff₀ hp] at hh
  constructor <;> linarith

/-- A value that is clearly below a number of 25 bits stays below it. -/
theorem RoundsTo.lt_of_gap {v w : ℚ} {M : ℕ} {q : ℤ} (h : RoundsTo v w) (hM : M < 2 ^ 25)
    (hgap : v + 2 ^ (q - 29) < M * 2 ^ q) : w < M * 2 ^ q := by
  obtain ⟨e, r, hlow, -, hr, rfl⟩ := h
  have hM' : (M : ℚ) < 2 ^ 25 := by exact_mod_cast hM
  have hle : e ≤ q - 28 := by
    have hlt : (2 : ℚ) ^ 52 * 2 ^ e < 2 ^ (52 + 1) * 2 ^ (q - 28) := by
      have hq := two_zpow_pos q
      have hsplit : (2 : ℚ) ^ q = 2 ^ 28 * 2 ^ (q - 28) := by
        rw [← zpow_natCast, ← two_zpow_add]
        congr 1
        push_cast
        ring
      have hbelow := mul_lt_mul_of_pos_right hM' hq
      have hgap' := two_zpow_pos (q - 29)
      calc (2 : ℚ) ^ 52 * 2 ^ e ≤ v := hlow
        _ < 2 ^ 25 * 2 ^ q := by linarith
        _ = 2 ^ (52 + 1) * 2 ^ (q - 28) := by rw [hsplit, ← mul_assoc, ← pow_add]
    exact exponent_le hlt
  have hp := two_zpow_pos e
  have hhalf : (2 : ℚ) ^ e / 2 ≤ 2 ^ (q - 29) := by
    have : (2 : ℚ) ^ e ≤ 2 ^ (q - 29 + 1) := zpow_le_zpow_right₀ (by norm_num) (by omega)
    rw [two_zpow_add, zpow_one] at this
    linarith
  have hl := hr.low
  rw [le_div_iff₀ hp] at hl
  linarith

/-- A value that is clearly above a number of 25 bits stays above it. -/
theorem RoundsTo.gt_of_gap {v w : ℚ} {M : ℕ} {q : ℤ} (h : RoundsTo v w) (hM : M < 2 ^ 25)
    (hgap : M * 2 ^ q + 2 ^ (q - 29) < v) : M * 2 ^ q < w := by
  obtain ⟨e, r, hlow, hhigh, hr, rfl⟩ := h
  have hp := two_zpow_pos e
  have hM' : (M : ℚ) + 1 ≤ 2 ^ 25 := by exact_mod_cast hM
  rcases le_or_gt e (q - 28) with hle | hlt
  · have hhalf : (2 : ℚ) ^ e / 2 ≤ 2 ^ (q - 29) := by
      have : (2 : ℚ) ^ e ≤ 2 ^ (q - 29 + 1) := zpow_le_zpow_right₀ (by norm_num) (by omega)
      rw [two_zpow_add, zpow_one] at this
      linarith
    have hh := hr.high
    rw [div_le_iff₀ hp] at hh
    linarith
  · -- The number has a smaller leading bit.
    have hr52 : 2 ^ 52 ≤ r := by
      refine hr.le_of_le ?_
      rw [le_div_iff₀ hp]
      exact_mod_cast hlow
    have hr52' : (2 : ℚ) ^ 52 ≤ r := by exact_mod_cast hr52
    have hq : (2 : ℚ) ^ q ≤ 2 ^ 27 * 2 ^ e := by
      rw [← zpow_natCast, ← two_zpow_add]
      exact zpow_le_zpow_right₀ (by norm_num) (by push_cast; omega)
    have hqpos := two_zpow_pos q
    nlinarith

/-! ## Operations -/

/-- A number in double precision with this sign and magnitude, whose mantissa has the full width. -/
def IsDouble (x : Float) (sign : Sign) (v : ℚ) : Prop :=
  ∃ m e, IsFinite x.toModel.unpack sign m e ∧ 2 ^ 52 ≤ m ∧ m < 2 ^ 53 ∧ -1074 ≤ e ∧ e ≤ 971 ∧ v = m * 2 ^ e

/-- A value that is neither too large nor too small for double precision. -/
structure Moderate (v : ℚ) : Prop where
  low : 2 ^ (-1000 : ℤ) ≤ v
  high : v ≤ 2 ^ (1000 : ℤ)

theorem isDouble_of_rounds {sign : Sign} {v : ℚ} {u : UnpackedFloat} (h : Rounds .binary64 sign v u)
    (hv : Moderate v) : ∃ w, RoundsTo v w ∧ IsDouble (.ofModel (.pack u)) sign w := by
  obtain ⟨e, r, hlast, hbelow, habove, hnearest, hfits, hcarried⟩ := h
  change v < 2 ^ 53 * 2 ^ e at hbelow
  change (-1074 : ℤ) < e → (2 : ℚ) ^ 52 * 2 ^ e ≤ v at habove
  have hlow : -1053 ≤ e := by
    have hlt := lt_of_le_of_lt hv.low hbelow
    rw [← zpow_natCast, ← two_zpow_add, zpow_lt_zpow_iff_right₀ (by norm_num)] at hlt
    push_cast at hlt
    omega
  have habove := habove (by omega)
  have hhigh : e ≤ 948 := by
    have hle := le_trans habove hv.high
    rw [← zpow_natCast, ← two_zpow_add, zpow_le_zpow_iff_right₀ (by norm_num)] at hle
    push_cast at hle
    omega
  have hp := two_zpow_pos e
  have hwide : 2 ^ 52 ≤ r := hnearest.le_of_le (by rw [le_div_iff₀ hp]; exact_mod_cast habove)
  have hnarrow : r ≤ 2 ^ 53 := hnearest.ge_of_ge (by rw [div_le_iff₀ hp]; exact_mod_cast hbelow.le)
  refine ⟨r * 2 ^ e, ⟨e, r, habove, hbelow, hnearest, rfl⟩, ?_⟩
  rcases Nat.lt_or_eq_of_le hnarrow with hlt | rfl
  · obtain ⟨hpos, rfl⟩ := hfits (by omega) hlt
    exact ⟨r, e, ⟨hpos, unpack_pack hpos hwide hlt (by omega) (by omega)⟩, hwide, hlt, by omega, by omega, rfl⟩
  · obtain ⟨hpos, rfl⟩ := hcarried rfl
    change 0 < 2 ^ 52 at hpos
    refine ⟨2 ^ 52, e + 1, ⟨hpos, unpack_pack hpos le_rfl (by norm_num) (by omega) (by omega)⟩, le_rfl, by norm_num,
      by omega, by omega, ?_⟩
    rw [two_zpow_add, zpow_one]
    push_cast
    ring

theorem isDouble_ofNat {n : ℕ} (hpos : 0 < n) (hn : n < 2 ^ 53) :
    IsDouble (UInt64.ofNat n).toFloat .positive n := by
  have hround : (UInt64.ofNat n).toFloat = .ofModel (.pack (round .binary64 .positive n 0)) := by
    have hcompare : compare (n : ℤ) 0 = .gt := Int.compare_eq_gt.2 (by omega)
    have hval : (UInt64.ofNat n).toNat = n := by rw [UInt64.toNat_ofNat']; omega
    change Float.ofModel (.pack (normalize .binary64 ((UInt64.ofNat n).toNat : ℤ) 0 .positive)) = _
    rw [hval, UnpackedFloat.normalize, hcompare]
    rfl
  have hone : (1 : ℚ) ≤ n := by exact_mod_cast hpos
  have hlt : (n : ℚ) < 2 ^ 53 := by exact_mod_cast hn
  have hmoderate : Moderate n := by
    constructor
    · exact le_trans (zpow_le_one_of_nonpos₀ (by norm_num) (by norm_num)) hone
    · refine le_trans hlt.le ?_
      rw [← zpow_natCast]
      exact zpow_le_zpow_right₀ (by norm_num) (by norm_num)
  have hrounds := @rounds_round .binary64 .positive n 0 hpos.ne'
  rw [zpow_zero, mul_one] at hrounds
  obtain ⟨w, hw, hdouble⟩ := isDouble_of_rounds hrounds hmoderate
  have hexact : w = n * 2 ^ (0 : ℤ) := RoundsTo.eq_of_bits (by simpa using hw) hn
  rw [hround]
  simpa [hexact] using hdouble

variable {x y : Float} {s t : Sign} {v w : ℚ}

/-- A product is rounded once. -/
theorem isDouble_mul (hx : IsDouble x s v) (hy : IsDouble y t w) (h : Moderate (v * w)) :
    ∃ z, RoundsTo (v * w) z ∧ IsDouble (x * y) (s * t) z := by
  obtain ⟨m₁, e₁, ⟨h₁, hu₁⟩, hw₁, -, -, -, rfl⟩ := hx
  obtain ⟨m₂, e₂, ⟨h₂, hu₂⟩, hw₂, -, -, -, rfl⟩ := hy
  have hmul : x * y = .ofModel (.pack (roundWithAccuracy .binary64 (s * t) (m₁ * m₂) (e₁ + e₂) .exact)) := by
    change Float.ofModel (.pack (UnpackedFloat.mul .binary64 x.toModel.unpack y.toModel.unpack)) = _
    rw [hu₁, hu₂]
    rfl
  have hlog : 104 ≤ (m₁ * m₂).log2 := by
    rw [Nat.le_log2 (Nat.mul_ne_zero h₁.ne' h₂.ne')]
    exact le_trans (by norm_num) (Nat.mul_le_mul hw₁ hw₂)
  have hplace : e₁ + e₂ ≤ Format.targetExponent .binary64 (totalExponent (m₁ * m₂) (e₁ + e₂)) := by
    simp only [Format.targetExponent, totalExponent, Format.mantissaBits]
    omega
  have hrounds := @rounds_roundWithAccuracy .binary64 (s * t) (m₁ * m₂) (e₁ + e₂) .exact _
    (Nat.mul_ne_zero h₁.ne' h₂.ne') (holds_exact _) hplace
  have hvalue : ((m₁ * m₂ : ℕ) : ℚ) * 2 ^ (e₁ + e₂) = m₁ * 2 ^ e₁ * (m₂ * 2 ^ e₂) := by
    rw [two_zpow_add]
    push_cast
    ring
  rw [hvalue] at hrounds
  rw [hmul]
  exact isDouble_of_rounds hrounds h

/-- A quotient is rounded once. -/
theorem isDouble_div (hx : IsDouble x s v) (hy : IsDouble y t w) (h : Moderate (v / w)) :
    ∃ z, RoundsTo (v / w) z ∧ IsDouble (x / y) (s / t) z := by
  obtain ⟨m₁, e₁, ⟨h₁, hu₁⟩, hw₁, hn₁, -, -, rfl⟩ := hx
  obtain ⟨m₂, e₂, ⟨h₂, hu₂⟩, hw₂, hn₂, -, -, rfl⟩ := hy
  have hm₁ : (0 : ℚ) < m₁ := by exact_mod_cast h₁
  have hm₂ : (0 : ℚ) < m₂ := by exact_mod_cast h₂
  have hquotient : m₁ * 2 ^ e₁ / (m₂ * 2 ^ e₂) = (m₁ : ℚ) / m₂ * 2 ^ (e₁ - e₂) := by
    rw [zpow_sub₀ (by norm_num)]
    field_simp
  -- The mantissas have the same width, so the quotient has the difference of the exponents.
  have hlow : -1002 ≤ e₁ - e₂ := by
    have htwo : (m₁ : ℚ) / m₂ < 2 := by
      rw [div_lt_iff₀ hm₂]
      exact_mod_cast (show m₁ < 2 * m₂ by omega)
    have hlt : (2 : ℚ) ^ (-1000 : ℤ) < 2 ^ (1 + (e₁ - e₂)) := by
      have hle := h.low
      rw [hquotient] at hle
      refine lt_of_le_of_lt hle ?_
      rw [two_zpow_add, zpow_one]
      exact mul_lt_mul_of_pos_right htwo (two_zpow_pos _)
    rw [zpow_lt_zpow_iff_right₀ (by norm_num)] at hlt
    omega
  have hlog₁ : m₁.log2 = 52 := (Nat.log2_eq_iff h₁.ne').2 ⟨hw₁, hn₁⟩
  have hlog₂ : m₂.log2 = 52 := (Nat.log2_eq_iff h₂.ne').2 ⟨hw₂, hn₂⟩
  have hcore : divCore .binary64 m₁ e₁ m₂ e₂ =
      (m₁ <<< 53 / m₂, e₁ - e₂ - 53, accuracyOfFraction (m₁ <<< 53 % m₂) m₂) := by
    have htarget : min (e₁ - e₂) (Format.targetExponent .binary64 (totalExponent m₁ e₁ - totalExponent m₂ e₂)) =
        e₁ - e₂ - 53 := by
      simp only [Format.targetExponent, totalExponent, hlog₁, hlog₂, Format.mantissaBits, Format.minExponent]
      omega
    have hshift : (e₁ - e₂ - (e₁ - e₂ - 53)).toNat = 53 := by omega
    simp only [divCore, htarget, hshift]
  have hdiv : x / y = .ofModel (.pack (roundWithAccuracy .binary64 (s / t) (m₁ <<< 53 / m₂) (e₁ - e₂ - 53)
      (accuracyOfFraction (m₁ <<< 53 % m₂) m₂))) := by
    change Float.ofModel (.pack (UnpackedFloat.div .binary64 x.toModel.unpack y.toModel.unpack)) = _
    rw [hu₁, hu₂]
    simp only [UnpackedFloat.div, hcore]
  have hwide : 2 ^ 52 ≤ m₁ <<< 53 / m₂ := by
    rw [Nat.le_div_iff_mul_le h₂, Nat.shiftLeft_eq]
    omega
  have hlog : 52 ≤ (m₁ <<< 53 / m₂).log2 := (Nat.le_log2 (by omega)).2 hwide
  have hplace : e₁ - e₂ - 53 ≤
      Format.targetExponent .binary64 (totalExponent (m₁ <<< 53 / m₂) (e₁ - e₂ - 53)) := by
    simp only [Format.targetExponent, totalExponent, Format.mantissaBits]
    omega
  have hrounds := @rounds_quotient .binary64 (s / t) (m₁ <<< 53) m₂ (e₁ - e₂ - 53) h₂ (by omega) hplace
  have hvalue : ((m₁ <<< 53 : ℕ) : ℚ) / m₂ * 2 ^ (e₁ - e₂ - 53) = m₁ * 2 ^ e₁ / (m₂ * 2 ^ e₂) := by
    rw [hquotient, zpow_sub₀ (by norm_num) (e₁ - e₂) 53, Nat.shiftLeft_eq]
    push_cast
    field_simp
  rw [hvalue] at hrounds
  rw [hdiv]
  exact isDouble_of_rounds hrounds h

/-- A negated number. -/
theorem isDouble_neg (hx : IsDouble x s v) : IsDouble (-x) (-s) v := by
  obtain ⟨m, e, ⟨h, hu⟩, hwide, hnarrow, hlow, hhigh, rfl⟩ := hx
  have hneg : -x = .ofModel (.pack (.finite (-s) m e h)) := by
    change Float.ofModel (.pack (UnpackedFloat.neg x.toModel.unpack)) = _
    rw [hu]
    rfl
  rw [hneg]
  exact ⟨m, e, ⟨h, unpack_pack h hwide hnarrow hlow hhigh⟩, hwide, hnarrow, hlow, hhigh, rfl⟩

end SchemaAtlas.Decimal
