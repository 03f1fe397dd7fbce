import Mathlib.Tactic.NormNum
import SchemaAtlas.Decimal.Binary
import SchemaAtlas.Proofs.Decimal.Rounding
/-!
# Numbers as bit patterns

A number in double precision whose mantissa has the full width is found again in its bit pattern
(`unpack_pack`). A number in single precision is packed into the bits that it was taken from
(`pack_single`).
-/

namespace SchemaAtlas.Decimal

open Float.Model (Format UnpackedFloat)
open Float.Model.UnpackedFloat

/-! ## Parts of a pattern -/

theorem toNat_append {a b : ℕ} (x : BitVec a) (y : BitVec b) : (x ++ y).toNat = x.toNat * 2 ^ b + y.toNat := by
  rw [BitVec.toNat_append, ← Nat.shiftLeft_add_eq_or_of_lt y.isLt, Nat.shiftLeft_eq]

theorem toNat_packComponents (spec : Format) (sign : Sign) (e : BitVec spec.exponentBits)
    (m : BitVec spec.mantissaBitsWithoutImplicit) :
    (packComponents spec sign e m).toNat =
      (sign.toBitVec.toNat * 2 ^ spec.exponentBits + e.toNat) * 2 ^ spec.mantissaBitsWithoutImplicit + m.toNat := by
  rw [packComponents, toNat_append, toNat_append]

theorem unpackSign_packComponents (spec : Format) (sign : Sign) (e : BitVec spec.exponentBits)
    (m : BitVec spec.mantissaBitsWithoutImplicit) :
    Sign.ofBitVec (unpackSign (packComponents spec sign e m)) = sign := by
  have hbit : unpackSign (packComponents spec sign e m) = sign.toBitVec := by
    ext i hi
    obtain rfl : i = 0 := by omega
    simp [unpackSign, packComponents, BitVec.getLsbD_append, BitVec.getElem_append]
  rw [hbit]
  cases sign <;> rfl

/-! ## Double precision -/

/-- A mantissa of the full width is found again. -/
theorem unpack_pack {sign : Sign} {m : ℕ} {e : ℤ} (h : 0 < m) (hwide : 2 ^ 52 ≤ m) (hnarrow : m < 2 ^ 53)
    (hlow : -1074 ≤ e) (hhigh : e ≤ 971) :
    (Float.Model.pack (.finite sign m e h)).unpack = .finite sign m e h := by
  obtain ⟨b, hb⟩ : ∃ b : ℕ, e = b - 1075 := ⟨(e + 1075).toNat, by omega⟩
  have hlog : m.log2 + 1 = 53 := by
    have hlog52 : m.log2 = 52 := (Nat.log2_eq_iff h.ne').2 ⟨hwide, hnarrow⟩
    omega
  have hbiased : (e + ((2 ^ (11 - 1) - 1 : ℕ) : ℤ) + ((52 : ℕ) : ℤ)).toNat = b := by omega
  have hpacked : pack .binary64 (.finite sign m e h) =
      packComponents .binary64 sign (BitVec.ofNat 11 b) (BitVec.ofNat 52 m) := by
    simp only [pack, Format.exponentBias, hbiased, Format.mantissaBits]
    rw [if_neg (by omega), if_pos hlog]
  have hexponent : (BitVec.ofNat 11 b).toNat = b := by
    rw [BitVec.toNat_ofNat]
    omega
  have hmantissa : (1#1 ++ BitVec.ofNat 52 m).toNat = m := by
    rw [toNat_append, BitVec.toNat_ofNat]
    simp only [BitVec.toNat_ofNat]
    omega
  have hones : BitVec.ofNat 11 b ≠ -1#11 := by
    intro heq
    have hval := congrArg BitVec.toNat heq
    rw [hexponent] at hval
    have : (-1#11).toNat = 2047 := by decide
    omega
  have hzero : BitVec.ofNat 11 b ≠ 0#11 := by
    intro heq
    have hval := congrArg BitVec.toNat heq
    rw [hexponent, BitVec.toNat_ofNat] at hval
    omega
  change unpack .binary64 (UInt64.ofBitVec (pack .binary64 (.finite sign m e h))).toBitVec = _
  rw [hpacked]
  simp only [unpack, unpackExponent_packComponents, unpackMantissa_packComponents, unpackSign_packComponents,
    hones, hzero, if_false, hexponent, hmantissa, Format.exponentBias, UnpackedFloat.finite.injEq, true_and]
  omega

/-! ## Single precision -/

/-- Numbers with the same bits are the same. -/
theorem eq_of_toBits {x y : Float32} (h : x.toBits.toNat = y.toBits.toNat) : x = y := by
  obtain ⟨⟨xbits, _⟩⟩ := x
  obtain ⟨⟨ybits, _⟩⟩ := y
  obtain rfl : xbits = ybits := UInt32.toNat_inj.1 h
  rfl

/-- The sign of a number. -/
def signOf (negative : Bool) : Sign := if negative then .negative else .positive

/-- The parts of a pattern follow each other: a mantissa of the full width counts one in the exponent. -/
theorem toNat_pack {sign : Sign} {m : ℕ} {e : ℤ} (h : 0 < m) (hm : m < 2 ^ 24) (hlow : -149 ≤ e) (hhigh : e ≤ 104)
    (hwide : 2 ^ 23 ≤ m ∨ e = -149) :
    (pack .binary32 (.finite sign m e h)).toNat =
      sign.toBitVec.toNat * 2 ^ 31 + (e + 149).toNat * 2 ^ 23 + m := by
  obtain ⟨b, hb⟩ : ∃ b : ℕ, e = b - 149 := ⟨(e + 149).toNat, by omega⟩
  have hbiased : (e + ((2 ^ (8 - 1) - 1 : ℕ) : ℤ) + ((23 : ℕ) : ℤ)).toNat = b + 1 := by omega
  have hplace : (e + 149).toNat = b := by omega
  simp only [pack, Format.exponentBias, hbiased, hplace, Format.mantissaBits]
  rw [if_neg (by omega)]
  split
  · next hlog =>
    have hfull : 2 ^ 23 ≤ m := ((Nat.log2_eq_iff h.ne').1 (show m.log2 = 23 by omega)).1
    rw [toNat_packComponents, BitVec.toNat_ofNat, BitVec.toNat_ofNat]
    change (sign.toBitVec.toNat * 2 ^ 8 + (b + 1) % 2 ^ 8) * 2 ^ 23 + m % 2 ^ 23 = _
    omega
  · next hlog =>
    have hpart : m < 2 ^ 23 := by
      by_contra hfull
      have : m.log2 = 23 := (Nat.log2_eq_iff h.ne').2 ⟨by omega, hm⟩
      omega
    rw [toNat_packComponents, BitVec.toNat_ofNat, BitVec.toNat_ofNat]
    change (sign.toBitVec.toNat * 2 ^ 8 + 0 % 2 ^ 8) * 2 ^ 23 + m % 2 ^ 23 = _
    omega

/-- The parts of a number in single precision, which have the form of the format. -/
theorem single_finite {x : Float32} {negative : Bool} {m : ℕ} {e : ℤ} {edge : Bool}
    (hx : single x = .finite negative m e edge) :
    x.toBits.toNat = (if negative then 2 ^ 31 else 0) + (e + 149).toNat * 2 ^ 23 + m ∧ m < 2 ^ 24 ∧ -149 ≤ e ∧
      e ≤ 104 ∧ (2 ^ 23 ≤ m ∨ e = -149) ∧ (edge = true ↔ m = 2 ^ 23 ∧ -149 < e) := by
  have hbits : x.toBits.toNat < 2 ^ 32 := x.toBits.toNat_lt
  simp only [single, Binary.ofBits, Nat.reducePow, Nat.pow_eq] at hx
  generalize x.toBits.toNat = bits at hx hbits
  have hneg : (if (bits / 2 ^ (8 + 23) % 2 == 1) = true then 2 ^ 31 else 0) = bits / 2 ^ 31 * 2 ^ 31 := by
    rcases Nat.mod_two_eq_zero_or_one (bits / 2 ^ (8 + 23)) with h | h <;> simp only [h] <;> norm_num <;> omega
  split at hx
  · split at hx <;> cases hx
  · next htop =>
    split at hx
    · next hzero =>
      cases hx
      rw [hneg]
      refine ⟨by omega, by omega, by omega, by omega, .inr (by omega), ?_⟩
      simp only [Bool.false_eq_true, false_iff]
      omega
    · next hzero =>
      cases hx
      rw [hneg]
      refine ⟨by omega, by omega, by omega, by omega, .inl (by omega), ?_⟩
      simp only [Bool.and_eq_true, beq_iff_eq, decide_eq_true_eq]
      omega

/-- A number in single precision is packed into its own bits. -/
theorem pack_single {x : Float32} {negative : Bool} {m : ℕ} {e : ℤ} {edge : Bool}
    (hx : single x = .finite negative m e edge) (h : 0 < m) :
    Float32.ofModel (.pack (.finite (signOf negative) m e h)) = x := by
  obtain ⟨hbits, hm, hlow, hhigh, hwide, -⟩ := single_finite hx
  have hsign : (signOf negative).toBitVec.toNat * 2 ^ 31 = if negative then 2 ^ 31 else 0 := by
    cases negative <;> rfl
  apply eq_of_toBits
  rw [hbits, ← hsign]
  exact toNat_pack h hm hlow hhigh hwide

end SchemaAtlas.Decimal
