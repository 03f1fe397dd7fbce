import SchemaAtlas.Proofs.Text.Utf8
import SchemaAtlas.Web.Percent
/-!
# Escapes read back

What is escaped is read as what was there before (`decode_encode`), provided that the percent sign is
escaped too. A reader that leaves the escapes of some bytes as they are undoes the other ones
(`decodeWhere_encode`).
-/

namespace SchemaAtlas.Web.Percent

open Text

variable {p : UInt8 → Bool} {special : Char → Bool}

/-! ## Digits -/

theorem digit?_digit : ∀ n, n < 16 → digit? (UInt8.ofNat (digit n).toNat) = some n := by decide

/-- The digits are no other ASCII characters. -/
theorem digit_mem : ∀ n, n < 16 → digit n ∈ "0123456789ABCDEF".toList := by decide

theorem toNat_digit_lt : ∀ n, n < 16 → (digit n).toNat < 128 := by decide

theorem utf8EncodeChar_ascii {c : Char} (h : c.toNat < 128) : String.utf8EncodeChar c = [UInt8.ofNat c.toNat] := by
  have hle : c.toNat ≤ 127 := by omega
  simp only [String.utf8EncodeChar, Char.toNat_val, hle, if_true]

theorem bytes_escape (b : UInt8) :
    bytes (escape b) = [37, UInt8.ofNat (digit (b.toNat / 16)).toNat, UInt8.ofNat (digit (b.toNat % 16)).toNat] := by
  have hb : b.toNat < 256 := b.toNat_lt
  rw [escape, bytes_cons, bytes_cons, bytes_cons, utf8EncodeChar_ascii (by decide),
    utf8EncodeChar_ascii (toNat_digit_lt _ (by omega)), utf8EncodeChar_ascii (toNat_digit_lt _ (by omega))]
  rfl

/-! ## Reading -/

theorem decodeWhere_cons {b : UInt8} (h : b ≠ 37) (bs : List UInt8) :
    decodeWhere p (b :: bs) = b :: decodeWhere p bs := by
  match bs with
  | [] => rfl
  | [_] => rfl
  | _ :: _ :: _ => simp [decodeWhere, h]

/-- Bytes without a percent sign stay as they are. -/
theorem decodeWhere_append {as : List UInt8} (h : 37 ∉ as) (bs : List UInt8) :
    decodeWhere p (as ++ bs) = as ++ decodeWhere p bs := by
  induction as with
  | nil => rfl
  | cons a as ih =>
    rw [List.mem_cons, not_or] at h
    rw [List.cons_append, decodeWhere_cons (Ne.symm h.1), ih h.2, List.cons_append]

/-- An escape is replaced by its byte, or stays. -/
theorem decodeWhere_escape (b : UInt8) (bs : List UInt8) :
    decodeWhere p (bytes (escape b) ++ bs) =
      (if p b then [b] else bytes (escape b)) ++ decodeWhere p bs := by
  have hb : b.toNat < 256 := b.toNat_lt
  have hvalue : escaped? [UInt8.ofNat (digit (b.toNat / 16)).toNat, UInt8.ofNat (digit (b.toNat % 16)).toNat] =
      some b := by
    have hsum : UInt8.ofNat (b.toNat / 16 * 16 + b.toNat % 16) = b := by
      rw [show b.toNat / 16 * 16 + b.toNat % 16 = b.toNat by omega, UInt8.ofNat_toNat]
    simp only [escaped?, digit?_digit _ (show b.toNat / 16 < 16 by omega),
      digit?_digit _ (show b.toNat % 16 < 16 by omega)]
    exact congrArg some hsum
  rw [bytes_escape]
  simp only [List.cons_append, List.nil_append, decodeWhere, if_true, hvalue]
  split <;> rfl

theorem decodeWhere_escapes (bs cs : List UInt8) :
    decodeWhere p (bytes (bs.flatMap escape) ++ cs) =
      (bs.flatMap fun b => if p b then [b] else bytes (escape b)) ++ decodeWhere p cs := by
  induction bs with
  | nil => rfl
  | cons b bs ih =>
    rw [List.flatMap_cons, bytes_append, List.append_assoc, decodeWhere_escape, ih, List.flatMap_cons,
      List.append_assoc]

/-! ## What was escaped -/

/-- A percent sign is no byte of another character. -/
theorem percent_not_mem {c : Char} (h : c ≠ '%') : 37 ∉ String.utf8EncodeChar c := by
  intro hmem
  rcases of_mem_utf8EncodeChar hmem with heq | hge
  · exact h (by rw [← Char.ofNat_toNat c, ← heq]; rfl)
  · exact absurd hge (by decide)

/-- Each escaped character is undone byte by byte. -/
theorem decodeWhere_encode (hpercent : special '%' = true) (cs : List Char) :
    decodeWhere p (bytes (encode special cs)) =
      cs.flatMap fun c =>
        if special c then (String.utf8EncodeChar c).flatMap fun b => if p b then [b] else bytes (escape b)
        else String.utf8EncodeChar c := by
  induction cs with
  | nil => rfl
  | cons c cs ih =>
    rw [encode, List.flatMap_cons, bytes_append, List.flatMap_cons]
    split
    · rw [decodeWhere_escapes]
      exact congrArg _ ih
    · next hc =>
      have hne : c ≠ '%' := by
        rintro rfl
        exact hc hpercent
      have hbytes : bytes [c] = String.utf8EncodeChar c := List.append_nil _
      rw [hbytes, decodeWhere_append (percent_not_mem hne)]
      exact congrArg _ ih

/-- What is escaped is read as what was there before. -/
theorem decode_encode (hpercent : special '%' = true) (cs : List Char) :
    decode (bytes (encode special cs)) = bytes cs := by
  rw [decode, decodeWhere_encode hpercent]
  simp [bytes]

/-- Characters that are escaped do not stand in the outcome, and digits and percent signs apart it has
no others. -/
theorem mem_encode {c : Char} {cs : List Char} (h : c ∈ encode special cs) :
    (special c = false ∧ c ∈ cs) ∨ c ∈ "%0123456789ABCDEF".toList := by
  simp only [encode, List.mem_flatMap] at h
  obtain ⟨d, hd, h⟩ := h
  split at h
  · obtain ⟨b, -, hb⟩ := List.mem_flatMap.1 h
    have hlt : b.toNat < 256 := b.toNat_lt
    simp only [escape, List.mem_cons, List.not_mem_nil, or_false] at hb
    refine .inr (List.mem_cons.2 ?_)
    rcases hb with rfl | rfl | rfl
    · exact .inl rfl
    · exact .inr (digit_mem _ (by omega))
    · exact .inr (digit_mem _ (by omega))
  · next hspecial =>
    obtain rfl := List.mem_singleton.1 h
    exact .inl ⟨by simpa using hspecial, hd⟩

theorem encode_eq_nil_iff {cs : List Char} : encode special cs = [] ↔ cs = [] := by
  cases cs with
  | nil => simp [encode]
  | cons c cs =>
    obtain ⟨b, bs, hc, -⟩ := firstChar_utf8EncodeChar c
    simp only [encode, List.flatMap_cons, List.append_eq_nil_iff, reduceCtorEq, iff_false, not_and]
    intro h
    split at h
    · rw [hc] at h
      simp [escape] at h
    · simp at h

end SchemaAtlas.Web.Percent
