import Mathlib
/-!
# Rounding to a number of binary places

Products, quotients and conversions of floating-point numbers keep the leading bits of an exact value
and two bits that tell what was cut off. These bits are enough to round the value to the nearest mantissa,
halfway to the even one (`nearest_of_holds`). So the outcome is the exact value rounded once
(`rounded_roundWithAccuracy`), at a binary place that depends on the value only.
-/

namespace SchemaAtlas.Decimal

open Float.Model Float.Model.UnpackedFloat

/-! ## The nearest natural number -/

/-- The natural number nearest to a value; halfway between two, the even one. -/
structure Nearest (r : ℕ) (z : ℚ) : Prop where
  low : (r : ℚ) - 1 / 2 ≤ z
  high : z ≤ r + 1 / 2
  even : z = r - 1 / 2 ∨ z = r + 1 / 2 → r % 2 = 0

theorem nearest_natCast (r : ℕ) : Nearest r r :=
  ⟨by linarith, by linarith, by rintro (h | h) <;> linarith⟩

theorem Nearest.unique {r s : ℕ} {z : ℚ} (hr : Nearest r z) (hs : Nearest s z) : r = s := by
  wlog hlt : r < s generalizing r s
  · by_contra hne
    exact hne (this hs hr (by omega)).symm
  -- Two nearest numbers are neighbours, and then the value is halfway between them.
  exfalso
  have hnext : s ≤ r + 1 := by
    have hle : (s : ℚ) ≤ r + 1 := by linarith [hr.high, hs.low]
    exact_mod_cast hle
  have heq : (s : ℚ) = r + 1 := by exact_mod_cast (show s = r + 1 by omega)
  have hz : z = r + 1 / 2 := le_antisymm hr.high (by linarith [hs.low])
  have hreven := hr.even (.inr hz)
  have hseven := hs.even (.inl (by linarith))
  omega

/-- A value that is a natural number is not changed. -/
theorem Nearest.eq_of_natCast {r n : ℕ} (h : Nearest r n) : r = n := h.unique (nearest_natCast n)

/-- Natural numbers are not crossed. -/
theorem Nearest.le_of_le {r n : ℕ} {z : ℚ} (h : Nearest r z) (hn : (n : ℚ) ≤ z) : n ≤ r := by
  by_contra hlt
  have hle : (r : ℚ) + 1 ≤ n := by exact_mod_cast (show r + 1 ≤ n by omega)
  linarith [h.high]

theorem Nearest.ge_of_ge {r n : ℕ} {z : ℚ} (h : Nearest r z) (hn : z ≤ n) : r ≤ n := by
  by_contra hlt
  have hle : (n : ℚ) + 1 ≤ r := by exact_mod_cast (show n + 1 ≤ r by omega)
  linarith [h.low]

/-! ## Mantissas with bits that were cut off -/

/-- Where a value lies above its mantissa, by the two bits that follow: the round bit is worth a half, and
the sticky bit tells whether anything is left behind it. -/
def Holds (em : ExtendedMantissa) (z : ℚ) : Prop :=
  match em.roundBit, em.stickyBit with
  | false, false => z = em.mantissa
  | false, true => em.mantissa < z ∧ z < em.mantissa + 1 / 2
  | true, false => z = em.mantissa + 1 / 2
  | true, true => em.mantissa + 1 / 2 < z ∧ z < em.mantissa + 1

theorem holds_exact (m : ℕ) : Holds (.ofMantissaAndAccuracy m .exact) m := rfl

/-- What is left of a division tells how the quotient continues. -/
theorem holds_fraction (m : ℕ) {num den : ℕ} (h : num < den) :
    Holds (.ofMantissaAndAccuracy m (accuracyOfFraction num den)) (m + num / den) := by
  have hden : (0 : ℚ) < den := by exact_mod_cast (show 0 < den by omega)
  by_cases hnum : num = 0
  · simp [accuracyOfFraction, hnum, Holds, ExtendedMantissa.ofMantissaAndAccuracy]
  have hpos : (0 : ℚ) < num / den := div_pos (by exact_mod_cast Nat.pos_of_ne_zero hnum) hden
  simp only [accuracyOfFraction, hnum, if_false]
  rcases lt_trichotomy (2 * num) den with hlt | heq | hgt
  · have hhalf : (num : ℚ) / den < 1 / 2 := by
      rw [div_lt_div_iff₀ hden (by norm_num)]
      exact_mod_cast (show num * 2 < 1 * den by omega)
    rw [Nat.compare_eq_lt.2 hlt]
    exact ⟨by simpa [ExtendedMantissa.ofMantissaAndAccuracy] using hpos, add_lt_add_right hhalf _⟩
  · have hhalf : (num : ℚ) / den = 1 / 2 := by
      rw [div_eq_div_iff hden.ne' (by norm_num)]
      exact_mod_cast (show num * 2 = 1 * den by omega)
    rw [Nat.compare_eq_eq.2 heq, hhalf]
    rfl
  · have hhalf : 1 / 2 < (num : ℚ) / den := by
      rw [div_lt_div_iff₀ (by norm_num) hden]
      exact_mod_cast (show 1 * den < num * 2 by omega)
    have hone : (num : ℚ) / den < 1 := by
      rw [div_lt_one hden]
      exact_mod_cast h
    rw [Nat.compare_eq_gt.2 hgt]
    exact ⟨add_lt_add_right hhalf _, add_lt_add_right hone _⟩

theorem holds_shiftRightOne {em : ExtendedMantissa} {z : ℚ} (h : Holds em z) :
    Holds em.shiftRightOne (z / 2) := by
  obtain ⟨m, round, sticky⟩ := em
  have hm : (m : ℚ) = 2 * (m / 2 : ℕ) + (m % 2 : ℕ) := by exact_mod_cast (Nat.div_add_mod m 2).symm
  rcases Nat.mod_two_eq_zero_or_one m with hlast | hlast <;> rw [hlast] at hm <;> push_cast at hm <;>
    cases round <;> cases sticky <;>
    simp only [Holds, ExtendedMantissa.shiftRightOne, hlast, Bool.or_true, Bool.or_false, bne_self_eq_false,
      show (1 != 0) = true from rfl] at h ⊢ <;>
    first
    | linarith
    | constructor <;> linarith

theorem holds_shiftRight {em : ExtendedMantissa} {z : ℚ} (h : Holds em z) (k : ℕ) :
    Holds (em >>> k) (z / 2 ^ k) := by
  induction k with
  | zero => simpa [HShiftRight.hShiftRight, Nat.repeat] using h
  | succ k ih =>
    have hstep := holds_shiftRightOne ih
    rwa [div_div, ← pow_succ] at hstep

/-- The two bits are enough to round. -/
theorem nearest_of_holds {em : ExtendedMantissa} {z : ℚ} (h : Holds em z) : Nearest em.roundedMantissa z := by
  obtain ⟨m, round, sticky⟩ := em
  cases round <;> cases sticky <;>
    simp only [Holds, ExtendedMantissa.roundedMantissa, ExtendedMantissa.accuracy,
      Accuracy.roundToNearestEven] at h ⊢
  · -- nothing was cut off
    rw [h]
    exact nearest_natCast m
  · -- less than a half
    exact ⟨by linarith, by linarith, by rintro (h | h) <;> linarith⟩
  · -- a half
    rcases Nat.mod_two_eq_zero_or_one m with hlast | hlast <;> rw [hlast]
    · exact ⟨by push_cast; linarith, by push_cast; linarith, fun _ => by omega⟩
    · exact ⟨by push_cast; linarith, by push_cast; linarith, fun _ => by omega⟩
  · -- more than a half
    exact ⟨by push_cast; linarith, by push_cast; linarith, by push_cast; rintro (h | h) <;> linarith⟩

/-! ## Rounding to a format -/

/-- A finite number with this sign, mantissa and exponent. -/
def IsFinite (u : UnpackedFloat) (sign : Sign) (m : ℕ) (e : ℤ) : Prop := ∃ h, u = .finite sign m e h

/-- A positive value is rounded to a format: at the place `2 ^ e` that leaves a mantissa of the format's
width, or at the format's last place. A mantissa that becomes too wide is carried. -/
structure RoundsAt (spec : Format) (sign : Sign) (v : ℚ) (u : UnpackedFloat) (e : ℤ) (r : ℕ) : Prop where
  last : spec.minExponent ≤ e
  below : v < 2 ^ spec.mantissaBits * 2 ^ e
  above : spec.minExponent < e → 2 ^ (spec.mantissaBits - 1) * 2 ^ e ≤ v
  nearest : Nearest r (v / 2 ^ e)
  fits : 0 < r → r < 2 ^ spec.mantissaBits → IsFinite u sign r e
  carried : r = 2 ^ spec.mantissaBits → IsFinite u sign (2 ^ (spec.mantissaBits - 1)) (e + 1)

/-- A positive value is rounded to a format. -/
def Rounds (spec : Format) (sign : Sign) (v : ℚ) (u : UnpackedFloat) : Prop := ∃ e r, RoundsAt spec sign v u e r

/-- Shifting by no places. -/
theorem shiftToExponent_of_le {m : ℕ} {e t : ℤ} (h : t ≤ e) :
    shiftToExponent m e .exact t = (⟨m, false, false⟩, e) := by
  have hzero : (t - e).toNat = 0 := by omega
  simp [shiftToExponent, hzero, HShiftRight.hShiftRight, Nat.repeat, ExtendedMantissa.ofMantissaAndAccuracy]

/-- A mantissa with the width of the format is not shifted. -/
theorem targetExponent_le {spec : Format} {m : ℕ} {e : ℤ} (he : spec.minExponent ≤ e)
    (hm : m < 2 ^ spec.mantissaBits) : spec.targetExponent (totalExponent m e) ≤ e := by
  have hlog : m.log2 + 1 ≤ spec.mantissaBits := by
    rcases Nat.eq_zero_or_pos m with rfl | hpos
    · simp [Format.mantissaBits]
    · exact (Nat.log2_lt hpos.ne').2 hm
  simp only [Format.targetExponent, totalExponent]
  omega

/-- A mantissa that is one place too wide is shifted by one place. -/
theorem shiftToTargetExponent_carry {spec : Format} {e : ℤ} (he : spec.minExponent ≤ e) :
    ∃ em, shiftToTargetExponent spec (2 ^ spec.mantissaBits) e .exact = (em, e + 1) ∧
      em.mantissa = 2 ^ (spec.mantissaBits - 1) := by
  have htarget : spec.targetExponent (totalExponent (2 ^ spec.mantissaBits) e) = e + 1 := by
    simp only [Format.targetExponent, totalExponent, Nat.log2_two_pow]
    omega
  have hone : (e + 1 - e).toNat = 1 := by omega
  refine ⟨_, by rw [shiftToTargetExponent, htarget, shiftToExponent, hone]; rfl, ?_⟩
  change 2 ^ spec.mantissaBits / 2 = _
  obtain ⟨p, hp⟩ : ∃ p, spec.mantissaBits = p + 1 := ⟨spec.mantissaBitsWithoutImplicit, by
    rw [Format.mantissaBits, Nat.add_comm]⟩
  rw [hp, pow_succ, Nat.mul_div_cancel _ (by norm_num), Nat.add_sub_cancel]

theorem bounds_of_holds {m : ℕ} {acc : Accuracy} {z : ℚ} (h : Holds (.ofMantissaAndAccuracy m acc) z) :
    (m : ℚ) ≤ z ∧ z < m + 1 := by
  rcases acc with _ | _ | _ | _ <;> simp only [Holds, ExtendedMantissa.ofMantissaAndAccuracy] at h <;>
    constructor <;> linarith

theorem two_zpow_add (a b : ℤ) : (2 : ℚ) ^ (a + b) = 2 ^ a * 2 ^ b := zpow_add₀ (by norm_num) a b

theorem two_zpow_pos (a : ℤ) : (0 : ℚ) < 2 ^ a := zpow_pos (by norm_num) a

/-- A mantissa with enough bits, or at the last place, is rounded to the format. -/
theorem rounds_roundWithAccuracy {spec : Format} {sign : Sign} {m : ℕ} {e : ℤ} {acc : Accuracy} {z : ℚ}
    (hm : m ≠ 0) (hz : Holds (.ofMantissaAndAccuracy m acc) z)
    (he : e ≤ spec.targetExponent (totalExponent m e)) :
    Rounds spec sign (z * 2 ^ e) (roundWithAccuracy spec sign m e acc) := by
  obtain ⟨k, hk⟩ : ∃ k : ℕ, spec.targetExponent (totalExponent m e) = e + k :=
    ⟨(spec.targetExponent (totalExponent m e) - e).toNat, by omega⟩
  have hplace : e + k = max (m.log2 + 1 + e - spec.mantissaBits) spec.minExponent := hk.symm
  obtain ⟨hlow, hhigh⟩ := bounds_of_holds hz
  have hlog : (2 : ℚ) ^ (m.log2 : ℤ) ≤ z := by
    refine le_trans ?_ hlow
    exact_mod_cast Nat.log2_self_le hm
  have hlog' : z < (2 : ℚ) ^ (m.log2 + 1 : ℤ) := by
    refine lt_of_lt_of_le hhigh ?_
    exact_mod_cast Nat.lt_log2_self (n := m)
  have hfirst : shiftToTargetExponent spec m e acc = (ExtendedMantissa.ofMantissaAndAccuracy m acc >>> k, e + k) := by
    have hshift : (e + k - e).toNat = k := by omega
    rw [shiftToTargetExponent, hk, shiftToExponent, hshift]
  refine ⟨e + k, (ExtendedMantissa.ofMantissaAndAccuracy m acc >>> k).roundedMantissa, ?_, ?_, ?_, ?_, ?_, ?_⟩
  · omega
  · calc z * 2 ^ e < 2 ^ (m.log2 + 1 : ℤ) * 2 ^ e := mul_lt_mul_of_pos_right hlog' (two_zpow_pos e)
      _ = 2 ^ (m.log2 + 1 + e : ℤ) := (two_zpow_add _ _).symm
      _ ≤ 2 ^ (spec.mantissaBits + (e + k) : ℤ) := zpow_le_zpow_right₀ (by norm_num) (by omega)
      _ = 2 ^ spec.mantissaBits * 2 ^ (e + k : ℤ) := by rw [two_zpow_add, zpow_natCast]
  · intro habove
    have hbits : 0 < spec.mantissaBits := by simp [Format.mantissaBits]
    calc (2 : ℚ) ^ (spec.mantissaBits - 1) * 2 ^ (e + k : ℤ)
        = 2 ^ ((spec.mantissaBits - 1 : ℕ) + (e + k) : ℤ) := by
          rw [two_zpow_add ((spec.mantissaBits - 1 : ℕ) : ℤ), zpow_natCast]
      _ = 2 ^ (m.log2 + e : ℤ) := congrArg ((2 : ℚ) ^ ·) (by omega)
      _ = 2 ^ (m.log2 : ℤ) * 2 ^ e := two_zpow_add _ _
      _ ≤ z * 2 ^ e := mul_le_mul_of_nonneg_right hlog (two_zpow_pos e).le
  · have hvalue : z * 2 ^ e / 2 ^ (e + k : ℤ) = z / 2 ^ k := by
      rw [two_zpow_add, zpow_natCast]
      field_simp
    rw [hvalue]
    exact nearest_of_holds (holds_shiftRight hz k)
  · intro hpos hfit
    refine ⟨hpos, ?_⟩
    rw [roundWithAccuracy, hfirst]
    dsimp only
    rw [shiftToTargetExponent, shiftToExponent_of_le (targetExponent_le (by omega) hfit), dif_neg hpos.ne']
  · intro hcarry
    obtain ⟨em, hshift, hmantissa⟩ := @shiftToTargetExponent_carry spec (e + k) (by omega)
    refine ⟨by positivity, ?_⟩
    rw [roundWithAccuracy, hfirst]
    dsimp only
    rw [hcarry, hshift]
    simp only [hmantissa]
    rw [dif_neg (by positivity)]

/-- A quotient with enough bits is rounded to the format. -/
theorem rounds_quotient {spec : Format} {sign : Sign} {n d : ℕ} {e : ℤ} (hd : 0 < d) (hn : n / d ≠ 0)
    (he : e ≤ spec.targetExponent (totalExponent (n / d) e)) :
    Rounds spec sign (n / d * 2 ^ e)
      (roundWithAccuracy spec sign (n / d) e (accuracyOfFraction (n % d) d)) := by
  have hsplit : (n : ℚ) / d = (n / d : ℕ) + (n % d : ℕ) / d := by
    have hd' : (d : ℚ) ≠ 0 := by exact_mod_cast hd.ne'
    have hdiv : (d : ℚ) * (n / d : ℕ) + (n % d : ℕ) = n := by exact_mod_cast Nat.div_add_mod n d
    field_simp
    linarith
  rw [hsplit]
  exact rounds_roundWithAccuracy hn (holds_fraction _ (Nat.mod_lt n hd)) he

/-- Any positive number is rounded to the format. -/
theorem rounds_round {spec : Format} {sign : Sign} {m : ℕ} {e : ℤ} (hm : m ≠ 0) :
    Rounds spec sign (m * 2 ^ e) (round spec sign m e) := by
  set t := spec.targetExponent (totalExponent m e) with ht
  obtain ⟨k, hk⟩ : ∃ k : ℕ, (e - t).toNat = k := ⟨_, rfl⟩
  have hshift : m <<< k ≠ 0 := by
    rw [Nat.shiftLeft_eq]
    exact Nat.mul_ne_zero hm (by positivity)
  have hlog : (m <<< k).log2 = m.log2 + k := by
    rw [Nat.shiftLeft_eq, Nat.log2_eq_iff (by rwa [Nat.shiftLeft_eq] at hshift), pow_add, pow_succ, pow_add]
    constructor
    · exact Nat.mul_le_mul_right _ (Nat.log2_self_le hm)
    · have hlt := Nat.mul_lt_mul_of_pos_right (Nat.lt_log2_self (n := m)) (show 0 < 2 ^ k by positivity)
      rw [pow_succ] at hlt
      linarith
  have htotal : totalExponent (m <<< k) (e - k) = totalExponent m e := by
    simp only [totalExponent, hlog]
    push_cast
    ring
  have hvalue : (m : ℚ) * 2 ^ e = ((m <<< k : ℕ) : ℚ) * 2 ^ (e - k : ℤ) := by
    rw [Nat.shiftLeft_eq, Nat.cast_mul, Nat.cast_pow, Nat.cast_ofNat, mul_assoc, ← zpow_natCast,
      ← two_zpow_add]
    congr 2
    ring
  rw [hvalue, UnpackedFloat.round, ← ht, decreaseExponent, hk]
  exact rounds_roundWithAccuracy hshift (holds_exact _) (by rw [htotal, ← ht]; omega)

end SchemaAtlas.Decimal
