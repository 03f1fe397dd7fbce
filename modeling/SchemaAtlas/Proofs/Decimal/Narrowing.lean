import SchemaAtlas.Proofs.Decimal.Doubles
/-!
# Rounding intervals

Every value in the rounding interval of a number in single precision is nearer to this number than to any
other one, or halfway to one with an odd mantissa. A number in double precision with such a value is narrowed
to the number (`narrow_eq`).
-/

namespace SchemaAtlas.Decimal

open Float.Model (Format UnpackedFloat)
open Float.Model.UnpackedFloat

/-- Where the rounding interval of `m * 2 ^ e` starts. Below an edge numbers lie twice as close. -/
def lower (m : ℕ) (e : ℤ) (edge : Bool) : ℚ := (m - if edge then 1 / 4 else 1 / 2) * 2 ^ e

/-- Where the rounding interval of `m * 2 ^ e` ends. -/
def upper (m : ℕ) (e : ℤ) : ℚ := (m + 1 / 2) * 2 ^ e

/-- A value in the rounding interval of `m * 2 ^ e`, whose ends belong to it if the mantissa is even. -/
structure Inside (m : ℕ) (e : ℤ) (edge : Bool) (v : ℚ) : Prop where
  low : lower m e edge ≤ v
  high : v ≤ upper m e
  odd : m % 2 = 1 → lower m e edge < v ∧ v < upper m e

variable {m : ℕ} {e : ℤ} {edge : Bool} {v : ℚ}

theorem half_le_lower (m : ℕ) (e : ℤ) (edge : Bool) : (m - 1 / 2) * (2 : ℚ) ^ e ≤ lower m e edge := by
  have hp := two_zpow_pos e
  refine mul_le_mul_of_nonneg_right ?_ hp.le
  split <;> linarith

/-- Counted in units of the last place, the value is rounded to the mantissa. -/
theorem Inside.nearest (h : Inside m e edge v) : Nearest m (v / 2 ^ e) := by
  have hp := two_zpow_pos e
  have hhalf := half_le_lower m e edge
  have hlow := h.low
  have hhigh := h.high
  unfold upper at hhigh
  refine ⟨?_, ?_, fun htie => ?_⟩
  · rw [le_div_iff₀ hp]
    linarith
  · rwa [div_le_iff₀ hp]
  · by_contra hodd
    obtain ⟨hlt, hgt⟩ := h.odd (by omega)
    unfold upper at hgt
    rw [div_eq_iff hp.ne', div_eq_iff hp.ne'] at htie
    rcases htie with htie | htie <;> linarith

/-- Below an edge, a value in the interval is rounded up to the edge. -/
theorem Inside.nearest_edge (h : Inside (2 ^ 23) e true v) (hbelow : v < 2 ^ 24 * 2 ^ (e - 1)) :
    Nearest (2 ^ 24) (v / 2 ^ (e - 1)) := by
  have hp := two_zpow_pos (e - 1)
  have hlow := h.low
  have hdouble : (2 : ℚ) ^ e = 2 * 2 ^ (e - 1) := by
    rw [← zpow_one_add₀ (by norm_num)]
    congr 1
    ring
  simp only [lower, if_true, hdouble] at hlow
  push_cast at hlow
  refine ⟨?_, ?_, fun _ => by norm_num⟩
  · rw [le_div_iff₀ hp]
    push_cast
    linarith
  · rw [div_le_iff₀ hp]
    push_cast
    linarith

/-- A value in the rounding interval of a number has the sign and the parts of the number when it is
rounded to single precision. -/
theorem isFinite_of_inside {sign : Sign} {u : UnpackedFloat} (h : Inside m e edge v)
    (hu : Rounds .binary32 sign v u) (hpos : 0 < m) (hm : m < 2 ^ 24) (he : -149 ≤ e) (hwide : 2 ^ 23 ≤ m ∨ e = -149)
    (hedge : edge = true ↔ m = 2 ^ 23 ∧ -149 < e) : IsFinite u sign m e := by
  obtain ⟨a, r, hlast, hbelow, habove, hnearest, hfits, hcarried⟩ := hu
  change (-149 : ℤ) ≤ a at hlast
  change v < 2 ^ 24 * 2 ^ a at hbelow
  change (-149 : ℤ) < a → (2 : ℚ) ^ 23 * 2 ^ a ≤ v at habove
  have hp := two_zpow_pos e
  have hm' : (m : ℚ) + 1 ≤ 2 ^ 24 := by exact_mod_cast hm
  have hhigh := h.high
  unfold upper at hhigh
  have hle : a ≤ e := by
    rcases eq_or_lt_of_le hlast with heq | hlt
    · omega
    · have hmp := mul_le_mul_of_nonneg_right hm' hp.le
      refine exponent_le (k := 23) (lt_of_le_of_lt (habove hlt) ?_)
      norm_num at hmp ⊢
      linarith
  rcases eq_or_lt_of_le hle with rfl | hlt
  · obtain rfl := hnearest.unique h.nearest
    exact hfits hpos hm
  · -- The value has a smaller leading bit than the number, which therefore is an edge.
    have hfull : 2 ^ 23 ≤ m := by omega
    have hfull' : (2 : ℚ) ^ 23 ≤ m := by exact_mod_cast hfull
    have hhalf : (2 : ℚ) ^ a * 2 ≤ 2 ^ e := by
      rw [← zpow_add_one₀ (by norm_num)]
      exact zpow_le_zpow_right₀ (by norm_num) (by omega)
    have hlow := le_trans (half_le_lower m e edge) h.low
    have hmedge : m = 2 ^ 23 := by
      by_contra hne
      have hge : (2 : ℚ) ^ 23 + 1 ≤ m := by exact_mod_cast (show 2 ^ 23 + 1 ≤ m by omega)
      nlinarith
    obtain rfl : edge = true := hedge.2 ⟨hmedge, by omega⟩
    subst hmedge
    have ha : a = e - 1 := by
      have hlt' : (2 : ℚ) ^ 22 * 2 ^ e < 2 ^ (22 + 1) * 2 ^ (a + 1) := by
        rw [zpow_add_one₀ (by norm_num)]
        norm_num at hlow hbelow ⊢
        linarith
      have := exponent_le hlt'
      omega
    subst ha
    have hr := hnearest.unique (h.nearest_edge hbelow)
    have hfinite := hcarried hr
    rwa [sub_add_cancel] at hfinite

/-- A number in double precision is narrowed to the number in whose rounding interval it lies. -/
theorem narrow_eq {x : Float32} {y : Float} {negative : Bool} (hx : single x = .finite negative m e edge)
    (hpos : 0 < m) (hy : IsDouble y (signOf negative) v) (hv : Inside m e edge v) : narrow y = x := by
  obtain ⟨-, hm, hlow, -, hwide, hedge⟩ := single_finite hx
  obtain ⟨k, i, ⟨hk, hu⟩, -, -, -, -, rfl⟩ := hy
  have hrounded : IsFinite (round .binary32 (signOf negative) k i) (signOf negative) m e :=
    isFinite_of_inside hv (rounds_round hk.ne') hpos hm hlow hwide hedge
  obtain ⟨h, hround⟩ := hrounded
  unfold narrow
  rw [hu]
  dsimp only
  rw [hround]
  exact pack_single hx h

end SchemaAtlas.Decimal
