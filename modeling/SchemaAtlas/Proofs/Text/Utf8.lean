import SchemaAtlas.Text.Utf8
/-!
# Bytes of a text read back

The bytes of a character are read as that character, and no byte behind them belongs to it
(`firstChar_utf8EncodeChar`). So the bytes of a text are read as that text (`lossy_bytes`), and texts with
the same bytes are the same. Outside ASCII all bytes of a character are above it, so a rule for ASCII can be
checked byte by byte (`forall_mem_bytes_iff`).
-/

namespace SchemaAtlas.Text

/-- One further byte of a character. -/
theorem follow_cons {low high : Nat} {b : UInt8} (h : low ≤ b.toNat ∧ b.toNat ≤ high)
    (more value taken : Nat) (bs : List UInt8) :
    follow (more + 1) low high value taken (b :: bs) =
      follow more 0x80 0xBF (value * 64 + (b.toNat - 0x80)) (taken + 1) bs := by
  simp [follow, h]

theorem lead?_two {b : UInt8} (h : 0xC2 ≤ b.toNat ∧ b.toNat < 0xE0) :
    lead? b = some (1, 0x80, 0xBF, b.toNat - 0xC0) := by
  have h80 : ¬ b.toNat < 0x80 := by omega
  have hC2 : ¬ b.toNat < 0xC2 := by omega
  simp [lead?, h80, hC2, h.2]

/-- The first of three bytes, and what it asks of the second one. -/
theorem lead?_three {b : UInt8} (h : 0xE0 ≤ b.toNat ∧ b.toNat < 0xF0) :
    lead? b = some (2, if b.toNat = 0xE0 then 0xA0 else 0x80, if b.toNat = 0xED then 0x9F else 0xBF,
      b.toNat - 0xE0) := by
  have h80 : ¬ b.toNat < 0x80 := by omega
  have hC2 : ¬ b.toNat < 0xC2 := by omega
  have hE0 : ¬ b.toNat < 0xE0 := by omega
  simp only [lead?, h80, hC2, hE0, if_false]
  split
  · next heq => simp [heq]
  · split
    · next heq => simp [heq]
    · simp [h.2]

/-- The first of four bytes, and what it asks of the second one. -/
theorem lead?_four {b : UInt8} (h : 0xF0 ≤ b.toNat ∧ b.toNat < 0xF5) :
    lead? b = some (3, if b.toNat = 0xF0 then 0x90 else 0x80, if b.toNat = 0xF4 then 0x8F else 0xBF,
      b.toNat - 0xF0) := by
  have h80 : ¬ b.toNat < 0x80 := by omega
  have hC2 : ¬ b.toNat < 0xC2 := by omega
  have hE0 : ¬ b.toNat < 0xE0 := by omega
  have hne : ¬ b.toNat = 0xE0 ∧ ¬ b.toNat = 0xED ∧ ¬ b.toNat < 0xF0 := by omega
  simp only [lead?, h80, hC2, hE0, hne, if_false]
  split
  · next heq => simp [heq]
  · split
    · next heq =>
      have hF4 : ¬ b.toNat = 0xF4 := by omega
      simp [hF4]
    · have hF4 : b.toNat = 0xF4 := by omega
      simp [hF4]

/-- The bytes of a character are read as this character, whatever follows. -/
theorem firstChar_utf8EncodeChar (c : Char) :
    ∃ b bs, String.utf8EncodeChar c = b :: bs ∧ ∀ rest, firstChar b (bs ++ rest) = (some c, bs.length) := by
  have hvalid : c.toNat < 0xD800 ∨ (0xDFFF < c.toNat ∧ c.toNat < 0x110000) := c.valid
  have hback : ∀ n, n = c.toNat → Char.ofNat n = c := by
    rintro n rfl
    exact Char.ofNat_toNat c
  have hbyte : ∀ n, (UInt8.ofNat n).toNat = n % 256 := fun n => UInt8.toNat_ofNat' ..
  simp only [String.utf8EncodeChar, Char.toNat_val]
  generalize c.toNat = v at hvalid hback
  split
  · refine ⟨_, _, rfl, fun rest => ?_⟩
    have hv : (UInt8.ofNat v).toNat = v := by rw [hbyte]; omega
    simp [firstChar, lead?, hv, follow, hback v rfl, show v < 128 by omega]
  split
  · refine ⟨_, _, rfl, fun rest => ?_⟩
    have h0 : (UInt8.ofNat (v / 64 % 32 + 192)).toNat = v / 64 + 192 := by rw [hbyte]; omega
    have h1 : (UInt8.ofNat (v % 64 + 128)).toNat = v % 64 + 128 := by rw [hbyte]; omega
    rw [firstChar, lead?_two (by omega)]
    simp only [List.cons_append, List.nil_append]
    rw [follow_cons (by omega)]
    simp only [follow, h0, h1]
    rw [hback _ (by omega)]
    rfl
  split
  · refine ⟨_, _, rfl, fun rest => ?_⟩
    have h0 : (UInt8.ofNat (v / 4096 % 16 + 224)).toNat = v / 4096 + 224 := by rw [hbyte]; omega
    have h1 : (UInt8.ofNat (v / 64 % 64 + 128)).toNat = v / 64 % 64 + 128 := by rw [hbyte]; omega
    have h2 : (UInt8.ofNat (v % 64 + 128)).toNat = v % 64 + 128 := by rw [hbyte]; omega
    rw [firstChar, lead?_three (by omega)]
    simp only [List.cons_append, List.nil_append]
    rw [follow_cons (by split <;> split <;> omega), follow_cons (by omega)]
    simp only [follow, h0, h1, h2]
    rw [hback _ (by omega)]
    rfl
  · refine ⟨_, _, rfl, fun rest => ?_⟩
    have h0 : (UInt8.ofNat (v / 262144 % 8 + 240)).toNat = v / 262144 + 240 := by rw [hbyte]; omega
    have h1 : (UInt8.ofNat (v / 4096 % 64 + 128)).toNat = v / 4096 % 64 + 128 := by rw [hbyte]; omega
    have h2 : (UInt8.ofNat (v / 64 % 64 + 128)).toNat = v / 64 % 64 + 128 := by rw [hbyte]; omega
    have h3 : (UInt8.ofNat (v % 64 + 128)).toNat = v % 64 + 128 := by rw [hbyte]; omega
    rw [firstChar, lead?_four (by omega)]
    simp only [List.cons_append, List.nil_append]
    rw [follow_cons (by split <;> split <;> omega), follow_cons (by omega), follow_cons (by omega)]
    simp only [follow, h0, h1, h2, h3]
    rw [hback _ (by omega)]
    rfl

/-- A byte of a character is the character itself, or it is none of ASCII. -/
theorem of_mem_utf8EncodeChar {c : Char} {b : UInt8} (h : b ∈ String.utf8EncodeChar c) :
    b.toNat = c.toNat ∨ 128 ≤ b.toNat := by
  have hbyte : ∀ n, (UInt8.ofNat n).toNat = n % 256 := fun n => UInt8.toNat_ofNat' ..
  simp only [String.utf8EncodeChar, Char.toNat_val] at h
  split at h
  · rw [List.mem_singleton] at h
    rw [h, hbyte]
    omega
  · refine .inr ?_
    split at h
    · simp only [List.mem_cons, List.not_mem_nil, or_false] at h
      rcases h with rfl | rfl <;> rw [hbyte] <;> omega
    split at h <;> simp only [List.mem_cons, List.not_mem_nil, or_false] at h
    · rcases h with rfl | rfl | rfl <;> rw [hbyte] <;> omega
    · rcases h with rfl | rfl | rfl | rfl <;> rw [hbyte] <;> omega

section

variable {p : Nat → Prop} (hp : ∀ m n, 128 ≤ m → 128 ≤ n → (p m ↔ p n))
include hp

theorem forall_mem_utf8EncodeChar_iff (c : Char) : (∀ b ∈ String.utf8EncodeChar c, p b.toNat) ↔ p c.toNat := by
  by_cases hc : c.toNat < 128
  · have hself : String.utf8EncodeChar c = [UInt8.ofNat c.toNat] := by
      simp only [String.utf8EncodeChar, Char.toNat_val]
      rw [if_pos (by omega)]
    have hbyte : (UInt8.ofNat c.toNat).toNat = c.toNat := by
      rw [UInt8.toNat_ofNat']
      omega
    rw [hself, List.forall_mem_singleton, hbyte]
  · have habove : ∀ b ∈ String.utf8EncodeChar c, 128 ≤ b.toNat := fun b hb => by
      have := of_mem_utf8EncodeChar hb
      omega
    obtain ⟨b, bs, hbytes, -⟩ := firstChar_utf8EncodeChar c
    have hb : b ∈ String.utf8EncodeChar c := by simp [hbytes]
    constructor
    · exact fun h => (hp _ _ (habove b hb) (by omega)).1 (h b hb)
    · exact fun h b hb => (hp _ _ (by omega) (habove b hb)).1 h

/-- Whatever does not tell apart what is above ASCII holds of the bytes of a text as it does of its characters. -/
theorem forall_mem_bytes_iff (cs : List Char) : (∀ b ∈ bytes cs, p b.toNat) ↔ ∀ c ∈ cs, p c.toNat := by
  simp only [bytes, List.mem_flatMap]
  constructor
  · exact fun h c hc => (forall_mem_utf8EncodeChar_iff hp c).1 fun b hb => h b ⟨c, hc, hb⟩
  · rintro h b ⟨c, hc, hb⟩
    exact (forall_mem_utf8EncodeChar_iff hp c).2 (h c hc) b hb

end

theorem bytes_append (cs ds : List Char) : bytes (cs ++ ds) = bytes cs ++ bytes ds := List.flatMap_append

theorem bytes_cons (c : Char) (cs : List Char) : bytes (c :: cs) = String.utf8EncodeChar c ++ bytes cs := rfl

/-- The bytes of a text are read as that text. -/
theorem lossy_bytes (cs : List Char) : lossy (bytes cs) = cs := by
  induction cs with
  | nil => simp [bytes, lossy, readUtf8]
  | cons c cs ih =>
    obtain ⟨b, bs, hc, hfirst⟩ := firstChar_utf8EncodeChar c
    rw [bytes_cons, hc, List.cons_append, lossy, readUtf8]
    simp only [hfirst, List.drop_left, List.map_cons, Option.getD_some]
    exact congrArg (c :: ·) ih

end SchemaAtlas.Text
