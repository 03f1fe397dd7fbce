import SchemaAtlas.Proofs.Decimal.Doubles
import SchemaAtlas.Proofs.Decimal.Fractions
/-!
# Powers of ten in double precision

The powers of ten that occur with numbers in single precision are near to the exact ones, and near enough
that no product or quotient with them comes between a decimal and a number halfway between two mantissas
(`stands_mul`, `stands_div`). Up to `10 ^ 12` they are exact; beyond, all decimals are covered by a walk down
the mediants near the ratio of the power of ten to a power of two.
-/

namespace SchemaAtlas.Decimal

open Float.Model (UnpackedFloat)

/-- A power of ten in double precision. -/
def power (j : ℕ) : Float := Float.ofScientific 1 false j

/-- The value of a power of ten in double precision, in units of `2 ^ -52`. -/
def powerUnits (j : ℕ) : ℕ :=
  match (power j).toModel.unpack with
  | .finite _ m e _ => m * 2 ^ (e + 52).toNat
  | _ => 0

/-- The power of two below a power of ten. -/
def place (j : ℕ) : ℕ := (10 ^ j).log2

/-- A power of ten has a mantissa of full width. -/
def fullWidth (j : ℕ) : Bool :=
  match (power j).toModel.unpack with
  | .finite .positive m e _ => decide (2 ^ 52 ≤ m ∧ m < 2 ^ 53 ∧ -52 ≤ e ∧ e ≤ 971)
  | _ => false

/-! ## Checked powers -/

theorem fullWidth_power : ∀ j < 47, fullWidth j = true := by decide +kernel

theorem powerUnits_exact : ∀ j < 13, powerUnits j = 10 ^ j * 2 ^ 52 := by decide +kernel

theorem powerUnits_close :
    ∀ j < 47, 10 ^ j * 2 ^ 53 ≤ 2 * powerUnits j + 10 ^ j ∧ 2 * powerUnits j ≤ 10 ^ j * 2 ^ 53 + 10 ^ j := by
  decide +kernel

theorem place_margin :
    ∀ j < 47, 10 ^ j * 2 ^ 20 + 2 ^ (place j + 1) ≤ 2 ^ (place j + 1) * 2 ^ 20 ∧
      (0 < j → 2 ^ place j * 2 ^ 20 + 10 ^ j ≤ 10 ^ j * 2 ^ 20) := by
  decide +kernel

theorem clear_mul :
    ∀ j < 39, 12 < j → Ratio.clear ⟨10 ^ j, 2 ^ place j⟩ ⟨powerUnits j, 2 ^ (52 + place j)⟩ 1000 0 1 1 0 = true := by
  decide +kernel

theorem clear_div :
    ∀ j < 47, 12 < j →
      Ratio.clear ⟨2 ^ (place j + 1), 10 ^ j⟩ ⟨2 ^ (53 + place j), powerUnits j⟩ 1000 0 1 1 0 = true := by
  decide +kernel

/-- The value of a power of ten in double precision. -/
theorem isDouble_power {j : ℕ} (hj : j < 47) : IsDouble (power j) .positive (powerUnits j / 2 ^ 52) := by
  have hfull := fullWidth_power j hj
  unfold fullWidth at hfull
  unfold powerUnits
  split at hfull
  · next m e h hu =>
    obtain ⟨hwide, hnarrow, hlow, hhigh⟩ := of_decide_eq_true hfull
    rw [hu]
    refine ⟨m, e, ⟨h, hu⟩, hwide, hnarrow, by omega, hhigh, ?_⟩
    obtain ⟨i, hi⟩ : ∃ i : ℕ, e + 52 = i := ⟨(e + 52).toNat, by omega⟩
    obtain rfl : e = i - 52 := by omega
    simp only [sub_add_cancel, Int.toNat_natCast]
    rw [zpow_sub₀ (by norm_num)]
    push_cast
    norm_num
    ring
  · cases hfull

/-! ## Values that stand in for powers of ten -/

/-- A value and what it is computed as are on the same side of a boundary, and clearly so unless they meet
it. -/
def Parted (v z b gap : ℚ) : Prop := (v < b ∧ z + gap < b) ∨ (v = b ∧ z = b) ∨ (b < v ∧ b + gap < z)

/-- A value `τ` stands in for a power of ten `θ`, which lies just above `2 ^ l`. -/
structure Stands (θ τ : ℚ) (l : ℤ) : Prop where
  low : 2 ^ l ≤ θ
  margin : θ * 2 ^ 20 + 2 ^ (l + 1) ≤ 2 ^ (l + 1) * 2 ^ 20
  above : θ * (1 - 1 / 2 ^ 52) ≤ τ
  below : τ ≤ θ * (1 + 1 / 2 ^ 52)
  parted : ∀ {M n : ℕ}, 0 < M → M < 2 ^ 25 → 0 < n → n ≤ 2 ^ 25 →
    Parted (n * θ) (n * τ) (M * 2 ^ l) (2 ^ (l - 29))

theorem gap_eq (l : ℤ) : (2 : ℚ) ^ (l - 29) = 1 / 2 ^ 29 * 2 ^ l := by
  rw [zpow_sub₀ (by norm_num)]
  norm_num
  ring

variable {x y : Ratio} {θ τ : ℚ} {l : ℤ} {M n : ℕ}

/-- Ratios that have no near fraction part all multiples from all boundaries. -/
theorem parted_of_clear {fuel : ℕ} (h : x.clear y fuel 0 1 1 0 = true) (hx : 0 < x.den) (hy : 0 < y.den)
    (hθ : θ = x.num / x.den * 2 ^ l) (hτ : τ = y.num / y.den * 2 ^ l) (hM : 0 < M) (hM' : M < 2 ^ 25)
    (hn : 0 < n) (hn' : n ≤ 2 ^ 25) : Parted (n * θ) (n * τ) (M * 2 ^ l) (2 ^ (l - 29)) := by
  have hp := two_zpow_pos l
  have hx' : (0 : ℚ) < x.den := by exact_mod_cast hx
  have hy' : (0 : ℚ) < y.den := by exact_mod_cast hy
  have hmul : ∀ r : ℚ, n * (r * 2 ^ l) = n * r * 2 ^ l := fun r => by ring
  subst hθ hτ
  rw [gap_eq, hmul, hmul]
  rcases Ratio.apart_of_clear h hM hM' hn hn' with hside | hside
  · obtain ⟨hlt, hclear⟩ := Ratio.below_iff.1 hside
    refine .inr (.inr ⟨mul_lt_mul_of_pos_right ?_ hp, ?_⟩)
    · rw [← mul_div_assoc, lt_div_iff₀ hx']
      exact_mod_cast hlt
    · rw [← add_mul]
      refine mul_lt_mul_of_pos_right ?_ hp
      have hclear' : (M : ℚ) * y.den * 2 ^ 29 + y.den < n * y.num * 2 ^ 29 := by exact_mod_cast hclear
      rw [← mul_div_assoc, lt_div_iff₀ hy']
      linarith
  · obtain ⟨hlt, hclear⟩ := Ratio.above_iff.1 hside
    refine .inl ⟨mul_lt_mul_of_pos_right ?_ hp, ?_⟩
    · rw [← mul_div_assoc, div_lt_iff₀ hx']
      exact_mod_cast hlt
    · rw [← add_mul]
      refine mul_lt_mul_of_pos_right ?_ hp
      have hclear' : (n : ℚ) * y.num * 2 ^ 29 + y.den < M * y.den * 2 ^ 29 := by exact_mod_cast hclear
      rw [← mul_div_assoc, ← lt_sub_iff_add_lt, div_lt_iff₀ hy']
      linarith

/-- Multiples of a ratio with a small denominator meet a boundary or are clearly apart from it. -/
theorem parted_of_exact {a b : ℕ} (hb : 0 < b) (hb' : b < 2 ^ 29) (hθ : θ = a / b * 2 ^ l) (M n : ℕ) :
    Parted (n * θ) (n * θ) (M * 2 ^ l) (2 ^ (l - 29)) := by
  have hp := two_zpow_pos l
  have hbq : (0 : ℚ) < b := by exact_mod_cast hb
  have hgap : (2 : ℚ) ^ (l - 29) < 1 / b * 2 ^ l := by
    rw [gap_eq]
    exact mul_lt_mul_of_pos_right (one_div_lt_one_div_of_lt hbq (by exact_mod_cast hb')) hp
  have hmul : n * θ = (n * a : ℕ) / b * 2 ^ l := by
    rw [hθ]
    push_cast
    ring
  have hM : (M : ℚ) * 2 ^ l = (M * b : ℕ) / b * 2 ^ l := by
    push_cast
    field_simp
  have hstep : ∀ {i j : ℕ}, i < j → (i : ℚ) / b * 2 ^ l + 1 / b * 2 ^ l ≤ j / b * 2 ^ l := fun {i j} hij => by
    rw [← add_mul, ← add_div]
    exact mul_le_mul_of_nonneg_right (div_le_div_of_nonneg_right (by exact_mod_cast hij) hbq.le) hp.le
  have hpos := two_zpow_pos (l - 29)
  rw [hmul, hM]
  rcases lt_trichotomy (n * a) (M * b) with hlt | heq | hgt
  · have := hstep hlt
    exact .inl ⟨by linarith, by linarith⟩
  · exact .inr (.inl ⟨by rw [heq], by rw [heq]⟩)
  · have := hstep hgt
    exact .inr (.inr ⟨by linarith, by linarith⟩)

theorem place_le (j : ℕ) : 2 ^ place j ≤ 10 ^ j := Nat.log2_self_le (by positivity)

theorem lt_place (j : ℕ) : 10 ^ j < 2 ^ (place j + 1) := Nat.lt_log2_self

theorem le_place (j : ℕ) : j ≤ place j :=
  (Nat.le_log2 (by positivity)).2 (Nat.pow_le_pow_left (by norm_num) j)

theorem powerUnits_pos {j : ℕ} (hj : j < 47) : 0 < powerUnits j := by
  have hclose := (powerUnits_close j hj).1
  have hpos : 0 < 10 ^ j := by positivity
  omega

/-- Multiplying by a power of ten in double precision. -/
theorem stands_mul {j : ℕ} (hj : j < 39) : Stands (10 ^ j) (powerUnits j / 2 ^ 52) (place j) := by
  obtain ⟨hlow, hhigh⟩ := powerUnits_close j (by omega)
  have hlow' : (10 : ℚ) ^ j * 2 ^ 53 ≤ 2 * powerUnits j + 10 ^ j := by exact_mod_cast hlow
  have hhigh' : 2 * (powerUnits j : ℚ) ≤ 10 ^ j * 2 ^ 53 + 10 ^ j := by exact_mod_cast hhigh
  refine ⟨?_, ?_, ?_, ?_, fun {M n} hM hM' hn hn' => ?_⟩
  · rw [zpow_natCast]
    exact_mod_cast place_le j
  · exact_mod_cast (place_margin j (by omega)).1
  · rw [le_div_iff₀ (by norm_num)]
    linarith
  · rw [div_le_iff₀ (by norm_num)]
    linarith
  · rcases Nat.lt_or_ge 12 j with hfar | hnear
    · refine parted_of_clear (clear_mul j hj hfar) (by positivity) (by positivity) ?_ ?_ hM hM' hn hn'
      · push_cast
        rw [zpow_natCast]
        field_simp
      · push_cast
        rw [zpow_natCast, pow_add]
        field_simp
    · have hexact : (powerUnits j : ℚ) / 2 ^ 52 = 10 ^ j := by
        rw [powerUnits_exact j (by omega)]
        push_cast
        field_simp
        norm_num
      rw [hexact]
      obtain ⟨i, hi⟩ := Nat.exists_eq_add_of_le (le_place j)
      have hi' : 2 ^ i < 2 ^ 29 := by
        have hle := place_le j
        have hfive : 5 ^ j ≤ 5 ^ 12 := Nat.pow_le_pow_right (by norm_num) hnear
        rw [hi, pow_add, show 10 = 2 * 5 from rfl, mul_pow] at hle
        have := Nat.le_of_mul_le_mul_left hle (by positivity)
        omega
      refine @parted_of_exact _ _ (5 ^ j) (2 ^ i) (by positivity) hi' ?_ M n
      rw [zpow_natCast, hi, pow_add, show (10 : ℚ) = 2 * 5 by norm_num, mul_pow]
      push_cast
      field_simp

/-- Dividing by a power of ten in double precision. -/
theorem stands_div {j : ℕ} (hpos : 0 < j) (hj : j < 47) :
    Stands (1 / 10 ^ j) (2 ^ 52 / powerUnits j) (-(place j + 1 : ℕ)) := by
  obtain ⟨hlow, hhigh⟩ := powerUnits_close j hj
  have hlow' : (10 : ℚ) ^ j * 2 ^ 53 ≤ 2 * powerUnits j + 10 ^ j := by exact_mod_cast hlow
  have hhigh' : 2 * (powerUnits j : ℚ) ≤ 10 ^ j * 2 ^ 53 + 10 ^ j := by exact_mod_cast hhigh
  have hunits : (0 : ℚ) < powerUnits j := by exact_mod_cast powerUnits_pos hj
  have hten : (0 : ℚ) < 10 ^ j := by positivity
  refine ⟨?_, ?_, ?_, ?_, fun {M n} hM hM' hn hn' => ?_⟩
  · rw [zpow_neg, zpow_natCast, ← one_div]
    exact one_div_le_one_div_of_le hten (by exact_mod_cast (lt_place j).le)
  · have hmargin : (2 : ℚ) ^ place j * 2 ^ 20 + 10 ^ j ≤ 10 ^ j * 2 ^ 20 := by
      exact_mod_cast (place_margin j hj).2 hpos
    rw [show -((place j + 1 : ℕ) : ℤ) + 1 = -(place j : ℤ) by push_cast; ring, zpow_neg, zpow_natCast]
    have hplace : (0 : ℚ) < 2 ^ place j := by positivity
    field_simp
    linarith
  · rw [one_div, inv_mul_eq_div, div_le_div_iff₀ hten hunits]
    linarith
  · rw [one_div, inv_mul_eq_div, div_le_div_iff₀ hunits hten]
    linarith
  · rcases Nat.lt_or_ge 12 j with hfar | hnear
    · refine parted_of_clear (clear_div j hj hfar) (by positivity) (powerUnits_pos hj) ?_ ?_ hM hM' hn hn'
      · push_cast
        rw [zpow_neg, ← Nat.cast_add_one, zpow_natCast]
        field_simp
      · push_cast
        rw [zpow_neg, ← Nat.cast_add_one, zpow_natCast, show 53 + place j = 52 + (place j + 1) by omega, pow_add]
        field_simp
    · have hexact : (2 : ℚ) ^ 52 / powerUnits j = 1 / 10 ^ j := by
        rw [powerUnits_exact j (by omega)]
        push_cast
        field_simp
        norm_num
      rw [hexact]
      obtain ⟨i, hi⟩ := Nat.exists_eq_add_of_le (le_place j)
      have hfive : 5 ^ j ≤ 5 ^ 12 := Nat.pow_le_pow_right (by norm_num) hnear
      refine @parted_of_exact _ _ (2 ^ (i + 1)) (5 ^ j) (by positivity) (by omega) ?_ M n
      rw [zpow_neg, zpow_natCast, hi, add_assoc, pow_add, show (10 : ℚ) = 2 * 5 by norm_num, mul_pow]
      push_cast
      field_simp
      ring

/-- What stands in for a power of ten: a factor, or the divisor's inverse. -/
def standIn (k : ℤ) : ℚ :=
  if 0 ≤ k then powerUnits k.natAbs / 2 ^ 52 else 2 ^ 52 / powerUnits k.natAbs

theorem stands_standIn {k : ℤ} (hlow : -46 ≤ k) (hhigh : k ≤ 38) : ∃ l, Stands (10 ^ k) (standIn k) l := by
  obtain ⟨j, rfl | rfl⟩ := k.eq_nat_or_neg
  · refine ⟨place j, ?_⟩
    rw [standIn, if_pos (by omega), zpow_natCast, Int.natAbs_natCast]
    exact stands_mul (by omega)
  · rcases Nat.eq_zero_or_pos j with rfl | hpos
    · exact ⟨place 0, by simpa [standIn] using stands_mul (j := 0) (by norm_num)⟩
    · refine ⟨-(place j + 1 : ℕ), ?_⟩
      rw [standIn, if_neg (by omega), zpow_neg, zpow_natCast, Int.natAbs_neg, Int.natAbs_natCast, ← one_div]
      exact stands_div hpos (by omega)

end SchemaAtlas.Decimal
