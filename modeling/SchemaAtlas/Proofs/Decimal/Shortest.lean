import SchemaAtlas.Decimal.Shortest
import SchemaAtlas.Proofs.Decimal.Narrowing
import SchemaAtlas.Proofs.Json.Words
/-!
# The shortest decimal

The shortest decimal of a number in single precision lies in the number's rounding interval, at most one
step of its grid from the number. Its digits and its scale are small (`shortest_spec`).
-/

namespace SchemaAtlas.Decimal

variable {m : ℕ} {e k : ℤ} {edge : Bool}

/-! ## One grid -/

/-- What a quarter of the last binary place counts on a grid. -/
def gridUp (e k : ℤ) : ℕ := Nat.pow 2 (e - 2).toNat * Nat.pow 10 (-k).toNat

/-- What a step of the grid counts. -/
def gridDown (e k : ℤ) : ℕ := Nat.pow 2 (2 - e).toNat * Nat.pow 10 k.toNat

/-- The point of the grid below the number. -/
def gridFloor (m : ℕ) (e k : ℤ) : ℕ := 4 * m * gridUp e k / gridDown e k

/-- A point of the grid lies in the rounding interval. -/
def gridFits (m : ℕ) (e : ℤ) (edge : Bool) (k : ℤ) (c : ℕ) : Bool :=
  if m % 2 == 0 then
    decide ((4 * m - if edge then 1 else 2) * gridUp e k ≤ c * gridDown e k) &&
      decide (c * gridDown e k ≤ (4 * m + 2) * gridUp e k)
  else
    decide ((4 * m - if edge then 1 else 2) * gridUp e k < c * gridDown e k) &&
      decide (c * gridDown e k < (4 * m + 2) * gridUp e k)

/-- What one counts for on a grid. -/
def gridUnit (e k : ℤ) : ℚ := 2 ^ (2 - e).toNat * 10 ^ (-k).toNat

theorem gridUnit_pos (e k : ℤ) : 0 < gridUnit e k := by
  unfold gridUnit
  positivity

theorem zpow_mul_toNat {b : ℚ} (hb : 0 < b) (i : ℤ) : b ^ i * b ^ (-i).toNat = b ^ i.toNat := by
  rw [← zpow_natCast, ← zpow_natCast, ← zpow_add₀ hb.ne']
  congr 1
  omega

theorem gridUp_eq (e k : ℤ) : (gridUp e k : ℚ) = 2 ^ (e - 2) * gridUnit e k := by
  have h := zpow_mul_toNat (b := 2) (by norm_num) (e - 2)
  rw [neg_sub] at h
  simp only [gridUp, gridUnit, Nat.pow_eq, Nat.cast_mul, Nat.cast_pow, Nat.cast_ofNat]
  rw [← mul_assoc, h]

theorem gridDown_eq (e k : ℤ) : (gridDown e k : ℚ) = 10 ^ k * gridUnit e k := by
  have h := zpow_mul_toNat (b := 10) (by norm_num) k
  simp only [gridDown, gridUnit, Nat.pow_eq, Nat.cast_mul, Nat.cast_pow, Nat.cast_ofNat]
  rw [← h]
  ring

/-- A natural number of quarters is compared with a point of the grid as their values are. -/
theorem quarters_eq (i : ℕ) (e k : ℤ) : ((i * gridUp e k : ℕ) : ℚ) = i / 4 * 2 ^ e * gridUnit e k := by
  rw [Nat.cast_mul, gridUp_eq, zpow_sub₀ (by norm_num)]
  ring

theorem steps_eq (c : ℕ) (e k : ℤ) : ((c * gridDown e k : ℕ) : ℚ) = c * 10 ^ k * gridUnit e k := by
  rw [Nat.cast_mul, gridDown_eq]
  ring

theorem quarters_le {i c : ℕ} : i * gridUp e k ≤ c * gridDown e k ↔ (i : ℚ) / 4 * 2 ^ e ≤ c * 10 ^ k := by
  rw [← mul_le_mul_iff_left₀ (gridUnit_pos e k), ← quarters_eq, ← steps_eq, Nat.cast_le]

theorem quarters_lt {i c : ℕ} : i * gridUp e k < c * gridDown e k ↔ (i : ℚ) / 4 * 2 ^ e < c * 10 ^ k := by
  rw [← mul_lt_mul_iff_left₀ (gridUnit_pos e k), ← quarters_eq, ← steps_eq, Nat.cast_lt]

theorem le_quarters {i c : ℕ} : c * gridDown e k ≤ i * gridUp e k ↔ c * 10 ^ k ≤ (i : ℚ) / 4 * 2 ^ e := by
  rw [← not_lt, quarters_lt, not_lt]

theorem lt_quarters {i c : ℕ} : c * gridDown e k < i * gridUp e k ↔ c * 10 ^ k < (i : ℚ) / 4 * 2 ^ e := by
  rw [← not_le, quarters_le, not_le]

/-- The ends of the rounding interval in quarters. -/
theorem lower_quarters (hm : 0 < m) (e : ℤ) (edge : Bool) :
    ((4 * m - if edge then 1 else 2 : ℕ) : ℚ) / 4 * 2 ^ e = lower m e edge := by
  cases edge
  · simp only [lower, Bool.false_eq_true, if_false]
    rw [Nat.cast_sub (by omega)]
    push_cast
    ring
  · simp only [lower, if_true]
    rw [Nat.cast_sub (by omega)]
    push_cast
    ring

theorem upper_quarters (m : ℕ) (e : ℤ) : ((4 * m + 2 : ℕ) : ℚ) / 4 * 2 ^ e = upper m e := by
  rw [upper]
  push_cast
  ring

theorem gridFits_iff (hm : 0 < m) {c : ℕ} : gridFits m e edge k c = true ↔ Inside m e edge (c * 10 ^ k) := by
  unfold gridFits
  split
  · next heven =>
    simp only [Bool.and_eq_true, decide_eq_true_eq, quarters_le, le_quarters, lower_quarters hm, upper_quarters]
    refine ⟨fun h => ⟨h.1, h.2, fun hodd => ?_⟩, fun h => ⟨h.low, h.high⟩⟩
    rw [beq_iff_eq] at heven
    omega
  · next hodd =>
    simp only [Bool.and_eq_true, decide_eq_true_eq, quarters_lt, lt_quarters, lower_quarters hm, upper_quarters]
    rw [beq_iff_eq] at hodd
    exact ⟨fun h => ⟨h.1.le, h.2.le, fun _ => h⟩, fun h => h.odd (by omega)⟩

/-- The number lies between the point below it and the next one. -/
theorem gridFloor_bounds (m : ℕ) (e k : ℤ) :
    gridFloor m e k * (10 : ℚ) ^ k ≤ m * 2 ^ e ∧ m * 2 ^ e < (gridFloor m e k + 1 : ℕ) * (10 : ℚ) ^ k := by
  have hdown : 0 < gridDown e k := by
    unfold gridDown
    simp only [Nat.pow_eq]
    positivity
  have hvalue : ((4 * m : ℕ) : ℚ) / 4 * 2 ^ e = m * 2 ^ e := by
    push_cast
    ring
  rw [← hvalue]
  refine ⟨le_quarters.1 (Nat.div_mul_le_self _ _), quarters_lt.1 ?_⟩
  rw [Nat.mul_comm (gridFloor m e k + 1)]
  exact Nat.lt_mul_div_succ _ hdown

/-- The point of a grid is one of the neighbours of the number, and lies in the rounding interval. -/
theorem gridPoint?_spec {c : ℕ} (h : gridPoint? m e edge k = some c) :
    gridFits m e edge k c = true ∧ (c = gridFloor m e k ∨ c = gridFloor m e k + 1) := by
  unfold gridPoint? at h
  dsimp only at h
  split at h
  · cases h
  · next hfits _ => cases h; exact ⟨hfits, .inl rfl⟩
  · next _ hfits => cases h; exact ⟨hfits, .inr rfl⟩
  · next hbelow habove =>
    repeat' split at h
    all_goals cases h
    all_goals first | exact ⟨hbelow, .inl rfl⟩ | exact ⟨habove, .inr rfl⟩

/-- A grid whose steps are less than a quarter of the last binary place has a point. -/
theorem gridPoint?_of_fine (edge : Bool) (hm : 0 < m) (hk : 4 * (10 : ℚ) ^ k ≤ 2 ^ e) :
    ∃ c, 0 < c ∧ gridPoint? m e edge k = some c := by
  have hten : (0 : ℚ) < 10 ^ k := zpow_pos (by norm_num) k
  have htwo := two_zpow_pos e
  have hm' : (1 : ℚ) ≤ m := by exact_mod_cast hm
  have hvalue : 2 ^ e ≤ m * (2 : ℚ) ^ e := le_mul_of_one_le_left htwo.le hm'
  obtain ⟨hle, hlt⟩ := gridFloor_bounds m e k
  push_cast at hlt
  have hpos : 0 < gridFloor m e k := by
    rw [Nat.pos_iff_ne_zero]
    intro hzero
    rw [hzero] at hlt
    push_cast at hlt
    linarith
  have hinside : Inside m e edge (gridFloor m e k * 10 ^ k) := by
    have hlow : lower m e edge < gridFloor m e k * 10 ^ k := by
      have : lower m e edge ≤ (m - 1 / 4) * 2 ^ e := by
        refine mul_le_mul_of_nonneg_right ?_ htwo.le
        split <;> linarith
      linarith
    have hhigh : gridFloor m e k * 10 ^ k < upper m e := by
      unfold upper
      linarith
    exact ⟨hlow.le, hhigh.le, fun _ => ⟨hlow, hhigh⟩⟩
  have hfits := (gridFits_iff hm).2 hinside
  suffices h : ∃ c, gridPoint? m e edge k = some c by
    obtain ⟨c, hc⟩ := h
    refine ⟨c, ?_, hc⟩
    rcases (gridPoint?_spec hc).2 with rfl | rfl <;> omega
  unfold gridPoint?
  dsimp only
  split
  · next hbelow _ => exact absurd (hfits.symm.trans hbelow) (by decide)
  · exact ⟨_, rfl⟩
  · exact ⟨_, rfl⟩
  · repeat' split
    all_goals exact ⟨_, rfl⟩

/-! ## The coarsest grid -/

/-- The first grid with a point is found, and all coarser ones have large steps. -/
theorem coarsest?_spec (hm : 0 < m) {n : ℕ} {g : Grid} (h : coarsest? m e edge n k = some g) :
    0 < g.point ∧ gridPoint? m e edge g.scale = some g.point ∧ g.scale ≤ k ∧
      ∀ j, g.scale < j → j ≤ k → (2 : ℚ) ^ e < 4 * 10 ^ j := by
  induction n generalizing k with
  | zero => cases h
  | succ n ih =>
    -- A grid that is passed over has large steps.
    have later (h : coarsest? m e edge n (k - 1) = some g) (hnone : ∀ c, 0 < c → gridPoint? m e edge k ≠ some c) :
        0 < g.point ∧ gridPoint? m e edge g.scale = some g.point ∧ g.scale ≤ k ∧
          ∀ j, g.scale < j → j ≤ k → (2 : ℚ) ^ e < 4 * 10 ^ j := by
      obtain ⟨hpos, hpoint, hscale, hcoarser⟩ := ih h
      refine ⟨hpos, hpoint, by omega, fun j hj hjk => ?_⟩
      rcases eq_or_lt_of_le hjk with rfl | hlt
      · by_contra hfine
        obtain ⟨c, hc, heq⟩ := gridPoint?_of_fine edge hm (not_lt.1 hfine)
        exact hnone c hc heq
      · exact hcoarser j hj (by omega)
    simp only [coarsest?] at h
    split at h
    · next c hc =>
      split at h
      · next hzero => exact later h fun d hd heq => by rw [hc] at heq; cases heq; omega
      · next hzero =>
        cases h
        exact ⟨Nat.pos_of_ne_zero hzero, hc, le_rfl, fun j hj hjk => by dsimp only at hj; omega⟩
    · next hnone => exact later h fun d _ heq => by rw [hnone] at heq; cases heq

theorem coarsest?_isSome (hm : 0 < m) {n : ℕ} {j : ℤ} (hj : 4 * (10 : ℚ) ^ j ≤ 2 ^ e) (hjk : j ≤ k) (hn : k < j + n) :
    ∃ g, coarsest? m e edge n k = some g := by
  induction n generalizing k with
  | zero => omega
  | succ n ih =>
    rcases eq_or_lt_of_le hjk with rfl | hlt
    · obtain ⟨c, hc, heq⟩ := gridPoint?_of_fine edge hm hj
      simp only [coarsest?, heq, hc.ne', if_false]
      exact ⟨_, rfl⟩
    · simp only [coarsest?]
      split
      · split
        · exact ih (by omega) (by omega)
        · exact ⟨_, rfl⟩
      · exact ih (by omega) (by omega)

/-! ## The shortest decimal -/

theorem lt_pow_digits (n : ℕ) : n < 10 ^ (digits n).length := by
  induction n using digits.induct with
  | case1 n h =>
    rw [digits, if_pos h]
    simpa using h
  | case2 n h ih =>
    rw [digits, if_neg h, List.length_append, List.length_singleton, pow_succ]
    omega

theorem length_digits_le {n j : ℕ} (hj : 0 < j) (h : n < 10 ^ j) : (digits n).length ≤ j := by
  induction n using digits.induct generalizing j with
  | case1 n hn =>
    rw [digits, if_pos hn]
    exact hj
  | case2 n hn ih =>
    rw [digits, if_neg hn, List.length_append, List.length_singleton]
    obtain ⟨i, rfl⟩ : ∃ i, j = i + 1 := ⟨j - 1, by omega⟩
    rw [pow_succ] at h
    have hi : 0 < i := by
      rw [Nat.pos_iff_ne_zero]
      rintro rfl
      omega
    have := ih hi (by omega)
    omega

/-- The shortest decimal is the point of a grid whose steps are not much smaller than the last binary place. -/
theorem shortest_found (hm : 0 < m) (hm' : m < 2 ^ 24) (hlow : -149 ≤ e) (hhigh : e ≤ 104) :
    0 < (shortest m e edge).point ∧
      gridPoint? m e edge (shortest m e edge).scale = some (shortest m e edge).point ∧
      (2 : ℚ) ^ e < 40 * 10 ^ (shortest m e edge).scale := by
  set top := (digits (m * 2 ^ e.toNat)).length with htop
  have htop' : (2 : ℚ) ^ e < 10 ^ (top : ℤ) := calc
    (2 : ℚ) ^ e ≤ 2 ^ (e.toNat : ℤ) := zpow_le_zpow_right₀ (by norm_num) (by omega)
    _ = (2 ^ e.toNat : ℕ) := by push_cast; rw [zpow_natCast]
    _ ≤ (m * 2 ^ e.toNat : ℕ) := by exact_mod_cast Nat.le_mul_of_pos_left _ hm
    _ < (10 ^ top : ℕ) := by exact_mod_cast lt_pow_digits (m * 2 ^ e.toNat)
    _ = 10 ^ (top : ℤ) := by push_cast; rw [zpow_natCast]
  have hbound : top ≤ 39 := by
    refine length_digits_le (by norm_num) ?_
    calc m * 2 ^ e.toNat ≤ 2 ^ 24 * 2 ^ 104 :=
          Nat.mul_le_mul hm'.le (Nat.pow_le_pow_right (by norm_num) (by omega))
      _ < 10 ^ 39 := by norm_num
  obtain ⟨g, hg⟩ : ∃ g, coarsest? m e edge 1200 top = some g := by
    refine coarsest?_isSome (j := -46) hm ?_ (by omega) (by omega)
    calc 4 * (10 : ℚ) ^ (-46 : ℤ) ≤ 2 ^ (-149 : ℤ) := by norm_num
      _ ≤ 2 ^ e := zpow_le_zpow_right₀ (by norm_num) hlow
  have hshortest : shortest m e edge = g := by
    change (coarsest? m e edge 1200 top).getD _ = g
    rw [hg]
    rfl
  obtain ⟨hpos, hpoint, hscale, hcoarser⟩ := coarsest?_spec hm hg
  rw [hshortest]
  refine ⟨hpos, hpoint, ?_⟩
  rcases eq_or_lt_of_le hscale with heq | hlt
  · have hten : (0 : ℚ) < 10 ^ (top : ℤ) := zpow_pos (by norm_num) _
    rw [heq]
    linarith
  · have hnext := hcoarser (g.scale + 1) (by omega) (by omega)
    rw [zpow_add_one₀ (by norm_num)] at hnext
    linarith

/-- What is known of the shortest decimal of a number in single precision. -/
structure IsShortest (m : ℕ) (e : ℤ) (edge : Bool) (g : Grid) : Prop where
  pos : 0 < g.point
  small : g.point < 2 ^ 30
  low : -46 ≤ g.scale
  high : g.scale ≤ 38
  inside : Inside m e edge (g.point * 10 ^ g.scale)
  above : m * 2 ^ e ≤ g.point * (10 : ℚ) ^ g.scale + 10 ^ g.scale
  below : g.point * (10 : ℚ) ^ g.scale ≤ m * 2 ^ e + 10 ^ g.scale

theorem shortest_spec (hm : 0 < m) (hm' : m < 2 ^ 24) (hlow : -149 ≤ e) (hhigh : e ≤ 104) :
    IsShortest m e edge (shortest m e edge) := by
  obtain ⟨hpos, hpoint, hcoarse⟩ := @shortest_found m e edge hm hm' hlow hhigh
  generalize shortest m e edge = g at *
  obtain ⟨hfits, hneighbour⟩ := gridPoint?_spec hpoint
  obtain ⟨hfloor, hceil⟩ := gridFloor_bounds m e g.scale
  have hinside := (gridFits_iff hm).1 hfits
  have htwo := two_zpow_pos e
  have hten : (0 : ℚ) < 10 ^ g.scale := zpow_pos (by norm_num) _
  have hupper : g.point * (10 : ℚ) ^ g.scale < 2 ^ 24 * 2 ^ e := by
    have hmq : (m : ℚ) + 1 ≤ 2 ^ 24 := by exact_mod_cast hm'
    exact lt_of_le_of_lt hinside.high (mul_lt_mul_of_pos_right (by linarith) htwo)
  refine ⟨hpos, ?_, ?_, ?_, hinside, ?_, ?_⟩
  · have hlt : (g.point : ℚ) * 10 ^ g.scale < (2 ^ 24 * 40) * 10 ^ g.scale := by linarith
    have hlt' : g.point < 2 ^ 24 * 40 := by exact_mod_cast lt_of_mul_lt_mul_right hlt hten.le
    omega
  · have hlt : (10 : ℚ) ^ (-46 : ℤ) < 10 ^ (g.scale + 1) := calc
      (10 : ℚ) ^ (-46 : ℤ) < 2 ^ (-149 : ℤ) / 4 := by norm_num
      _ ≤ 2 ^ e / 4 := div_le_div_of_nonneg_right (zpow_le_zpow_right₀ (by norm_num) hlow) (by norm_num)
      _ ≤ 10 ^ (g.scale + 1) := by
        rw [zpow_add_one₀ (by norm_num)]
        linarith
    rw [zpow_lt_zpow_iff_right₀ (by norm_num)] at hlt
    omega
  · have hlt : (10 : ℚ) ^ g.scale < 10 ^ (39 : ℤ) := calc
      (10 : ℚ) ^ g.scale ≤ g.point * 10 ^ g.scale := le_mul_of_one_le_left hten.le (by exact_mod_cast hpos)
      _ < 2 ^ 24 * 2 ^ e := hupper
      _ ≤ 2 ^ 24 * 2 ^ (104 : ℤ) :=
        mul_le_mul_of_nonneg_left (zpow_le_zpow_right₀ (by norm_num) hhigh) (by norm_num)
      _ < 10 ^ (39 : ℤ) := by norm_num
    rw [zpow_lt_zpow_iff_right₀ (by norm_num)] at hlt
    omega
  · rcases hneighbour with heq | heq <;> rw [heq] at *
    · push_cast at hceil
      linarith
    · linarith
  · rcases hneighbour with heq | heq <;> rw [heq] at *
    · linarith
    · push_cast
      linarith

end SchemaAtlas.Decimal
