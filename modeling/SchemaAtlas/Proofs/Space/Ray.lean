import Mathlib
import SchemaAtlas.Space.Ray
/-!
# Distances along a ray

Numbers in single precision are compared like their ranks (`lt_iff_rank`), so what is not smaller than another
number is not smaller than any that is below it (`lt_or_lt`) - unless one of them is not a number. The distance
of a box is always a number (`isNaN_distance`): the two ends of a stretch start as numbers, and what is not a
number is ignored when they move.
-/

namespace SchemaAtlas.Space

open Float.Model (UnpackedFloat)

/-! ## The order of numbers -/

/-- Where a number stands: negative infinity, negative numbers, zero, positive numbers, infinity; those of one
sign by their exponents and then by their mantissas. What is not a number has no place and gets one here. -/
def rank : UnpackedFloat → ℤ ×ₗ ℤ ×ₗ ℤ
  | .infinity .negative => toLex (-2, toLex (0, 0))
  | .finite .negative m e _ => toLex (-1, toLex (-e, -m))
  | .zero _ | .notANumber => toLex (0, toLex (0, 0))
  | .finite .positive m e _ => toLex (1, toLex (e, m))
  | .infinity .positive => toLex (2, toLex (0, 0))

theorem then_eq_lt_iff {e f : ℤ} {m n : ℕ} :
    (compare e f).then (compare m n) = .lt ↔ e < f ∨ e = f ∧ m < n := by
  rw [Ordering.then_eq_lt, compare_lt_iff_lt, compare_eq_iff_eq, compare_lt_iff_lt]

theorem then_eq_gt_iff {e f : ℤ} {m n : ℕ} :
    (compare e f).then (compare m n) = .gt ↔ f < e ∨ e = f ∧ n < m := by
  rw [Ordering.then_eq_gt, compare_gt_iff_gt, compare_eq_iff_eq, compare_gt_iff_gt]

theorem lt_iff_rank {u v : UnpackedFloat} (hu : u.isNaN = false) (hv : v.isNaN = false) :
    u.lt v = true ↔ rank u < rank v := by
  rw [UnpackedFloat.lt, beq_iff_eq]
  cases u with
  | notANumber => cases hu
  | infinity s =>
    cases v with
    | notANumber => cases hv
    | infinity t => cases s <;> cases t <;> decide
    | zero t => cases s <;> simp [UnpackedFloat.compare, rank, Prod.Lex.toLex_lt_toLex]
    | finite t n f hn => cases s <;> cases t <;> simp [UnpackedFloat.compare, rank, Prod.Lex.toLex_lt_toLex]
  | zero s =>
    cases v with
    | notANumber => cases hv
    | infinity t => cases t <;> simp [UnpackedFloat.compare, rank, Prod.Lex.toLex_lt_toLex]
    | zero t => simp [UnpackedFloat.compare, rank]
    | finite t n f hn => cases t <;> simp [UnpackedFloat.compare, rank, Prod.Lex.toLex_lt_toLex]
  | finite s m e hm =>
    cases v with
    | notANumber => cases hv
    | infinity t => cases s <;> cases t <;> simp [UnpackedFloat.compare, rank, Prod.Lex.toLex_lt_toLex]
    | zero t => cases s <;> simp [UnpackedFloat.compare, rank, Prod.Lex.toLex_lt_toLex]
    | finite t n f hn =>
      cases s <;> cases t <;>
        simp [UnpackedFloat.compare, rank, Prod.Lex.toLex_lt_toLex, then_eq_lt_iff, then_eq_gt_iff]

variable {x y z : Float32}

/-- A number is smaller than another one if its rank is. -/
theorem lt_iff (hx : x.isNaN = false) (hy : y.isNaN = false) :
    x < y ↔ rank x.toModel.unpack < rank y.toModel.unpack := by
  rw [← lt_iff_rank hx hy]
  exact decide_eq_true_iff

theorem not_lt_of_lt (hx : x.isNaN = false) (hy : y.isNaN = false) (h : x < y) : ¬ y < x := by
  rw [lt_iff hx hy] at h
  rw [lt_iff hy hx]
  exact lt_asymm h

/-- A third number is above the smaller of two or below the larger. -/
theorem lt_or_lt (hx : x.isNaN = false) (hy : y.isNaN = false) (hz : z.isNaN = false) (h : x < y) : x < z ∨ z < y := by
  rw [lt_iff hx hy] at h
  rw [lt_iff hx hz, lt_iff hz hy]
  exact (lt_or_ge _ _).imp_right fun hle => hle.trans_lt h

/-! ## Distances are numbers -/

theorem isNaN_larger (hx : x.isNaN = false) (y : Float32) : (larger x y).isNaN = false := by
  unfold larger
  rw [if_neg (by rw [hx]; exact Bool.false_ne_true)]
  split
  · exact hx
  · next hy =>
    split
    · exact Bool.not_eq_true _ ▸ hy
    · exact hx

theorem isNaN_smaller (hx : x.isNaN = false) (y : Float32) : (smaller x y).isNaN = false := by
  unfold smaller
  rw [if_neg (by rw [hx]; exact Bool.false_ne_true)]
  split
  · exact hx
  · next hy =>
    split
    · exact Bool.not_eq_true _ ▸ hy
    · exact hx

namespace Box

/-- The two ends of a stretch are numbers. -/
structure Span.Proper (s : Span) : Prop where
  enter : s.enter.isNaN = false
  leave : s.leave.isNaN = false

theorem proper_wholeLine : wholeLine.Proper := ⟨by decide +kernel, by decide +kernel⟩

theorem proper_slab {o d lo hi : Float32} {s s' : Span} (h : s.Proper) (hs : slab o d lo hi s = some s') : s'.Proper := by
  unfold slab at hs
  split at hs
  · split at hs
    · cases hs
    · cases hs
      exact h
  · dsimp only at hs
    split at hs <;>
    · split at hs
      · cases hs
      · cases hs
        exact ⟨isNaN_larger h.enter _, isNaN_smaller h.leave _⟩

theorem isNaN_distance {b : Box} {r : Ray} {t : Float32} (h : b.distance? r = some t) : t.isNaN = false := by
  unfold distance? at h
  obtain ⟨s, hs, h⟩ := Option.bind_eq_some_iff.1 h
  obtain ⟨s', hs', h⟩ := Option.bind_eq_some_iff.1 h
  obtain ⟨s'', hs'', h⟩ := Option.bind_eq_some_iff.1 h
  have hproper := proper_slab (proper_slab (proper_slab proper_wholeLine hs) hs') hs''
  split at h
  · cases h
  · cases h
    split
    · exact hproper.enter
    · exact hproper.leave

end Box
end SchemaAtlas.Space
