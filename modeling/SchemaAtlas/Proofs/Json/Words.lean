import SchemaAtlas.Json.Tree
import SchemaAtlas.Json.Value
/-!
# Numbers and texts read back

The digits of a number below 2^64 are read as that number (`readUnsigned_digits`), and
a text between quotes is read as the text it was written from (`readWord_escaped`),
whatever follows.
-/

namespace SchemaAtlas

/-! ## Digits -/

namespace Decimal

theorem digitValue_digit (n : Nat) : digitValue (digit n) = n % 10 := by
  have h : ∀ m, m < 10 → digitValue (Char.ofNat (48 + m)) = m := by decide
  exact h _ (Nat.mod_lt _ (by decide))

theorem isDigit_digit (n : Nat) : (digit n).isDigit = true := by
  have h : ∀ m, m < 10 → (Char.ofNat (48 + m)).isDigit = true := by decide
  exact h _ (Nat.mod_lt _ (by decide))

theorem value_append (n : Nat) (cs ds : List Char) : value n (cs ++ ds) = value (value n cs) ds := by
  simp [value]

theorem value_digits (n : Nat) : value 0 (digits n) = n := by
  induction n using digits.induct with
  | case1 n h => rw [digits, if_pos h]; simp [value, digitValue_digit]; omega
  | case2 n h ih =>
    rw [digits, if_neg h, value_append, ih]
    simp [value, digitValue_digit]
    omega

theorem isDigit_of_mem_digits {n : Nat} {c : Char} (h : c ∈ digits n) : c.isDigit = true := by
  induction n using digits.induct with
  | case1 n hn =>
    rw [digits, if_pos hn, List.mem_singleton] at h
    exact h ▸ isDigit_digit n
  | case2 n hn ih =>
    rw [digits, if_neg hn, List.mem_append, List.mem_singleton] at h
    rcases h with h | rfl
    · exact ih h
    · exact isDigit_digit _

/-- Only the number zero starts with the digit `0`. -/
theorem head_digits (n : Nat) : ∃ c cs, digits n = c :: cs ∧ (c = '0' → cs = []) := by
  induction n using digits.induct with
  | case1 n h => exact ⟨digit n, [], by rw [digits, if_pos h], fun _ => rfl⟩
  | case2 n h ih =>
    obtain ⟨c, cs, hc, hz⟩ := ih
    refine ⟨c, cs ++ [digit (n % 10)], by rw [digits, if_neg h, hc]; rfl, fun h0 => ?_⟩
    -- The leading digits are those of `n / 10`, which would be zero.
    have hv := value_digits (n / 10)
    rw [hc, hz h0, h0] at hv
    simp [value, digitValue] at hv
    omega

/-- The value of digits only grows as more of them are read. -/
theorem le_value (n : Nat) (cs : List Char) : n ≤ value n cs := by
  induction cs generalizing n with
  | nil => simp [value]
  | cons c cs ih =>
    have h := ih (n * 10 + digitValue c)
    simp only [value, List.foldl_cons] at h ⊢
    omega

end Decimal

namespace Json

open Decimal (digits value digitValue)

/-! ## Numbers -/

/-- A text that does not continue a number. -/
def Ends (cs : List Char) : Prop :=
  ∀ c ∈ cs.head?, c.isDigit = false ∧ c ≠ '.' ∧ c ≠ 'e' ∧ c ≠ 'E'

theorem ends_nil : Ends [] := by simp [Ends]

theorem ends_cons {c : Char} {cs : List Char} :
    Ends (c :: cs) ↔ c.isDigit = false ∧ c ≠ '.' ∧ c ≠ 'e' ∧ c ≠ 'E' := by
  simp [Ends]

theorem takeWord_append (n : Nat) (ds rest : List Char) (hd : ∀ c ∈ ds, c.isDigit = true)
    (hv : value n ds ≤ maxWord) : takeWord n (ds ++ rest) = takeWord (value n ds) rest := by
  induction ds generalizing n with
  | nil => simp [value]
  | cons c ds ih =>
    have hc : c.isDigit = true := hd c (by simp)
    have hle : n * 10 + digitValue c ≤ maxWord := Nat.le_trans (Decimal.le_value _ ds) hv
    rw [List.cons_append, takeWord, if_pos (by simp [hc, hle]),
      ih _ (fun x hx => hd x (by simp [hx])) hv]
    rfl

theorem takeWord_of_ends (n : Nat) {rest : List Char} (h : Ends rest) : takeWord n rest = (n, rest) := by
  cases rest with
  | nil => rfl
  | cons c cs => rw [takeWord, if_neg (by simp [(ends_cons.1 h).1])]

theorem takeWhile_isDigit_of_ends {rest : List Char} (h : Ends rest) :
    rest.takeWhile Char.isDigit = [] ∧ rest.dropWhile Char.isDigit = rest := by
  cases rest with
  | nil => exact ⟨rfl, rfl⟩
  | cons c cs => simp [(ends_cons.1 h).1]

/-- The digits of a number of 64 bits are read as that number. -/
theorem readUnsigned_digits {n : Nat} (hn : n ≤ maxWord) {rest : List Char} (h : Ends rest) :
    readUnsigned false (digits n ++ rest) = .number (.natural n) rest := by
  obtain ⟨c, cs, hc, hz⟩ := Decimal.head_digits n
  have hdigit : c.isDigit = true := Decimal.isDigit_of_mem_digits (n := n) (by simp [hc])
  have hword : takeWord 0 (digits n ++ rest) = (n, rest) := by
    rw [takeWord_append 0 _ _ (fun _ => Decimal.isDigit_of_mem_digits) (by rwa [Decimal.value_digits]),
      Decimal.value_digits, takeWord_of_ends n h]
  -- A leading zero is the only digit, so no digit follows it.
  have hlead : (c == '0' && ((cs ++ rest).head?.map Char.isDigit).getD false) = false := by
    by_cases h0 : c = '0'
    · rw [hz h0]
      cases rest with
      | nil => simp
      | cons x xs => simp [(ends_cons.1 h).1]
    · simp [h0]
  rw [hc] at hword ⊢
  simp only [List.cons_append] at hword ⊢
  simp only [readUnsigned, hdigit, hlead, hword, (takeWhile_isDigit_of_ends h).1,
    (takeWhile_isDigit_of_ends h).2]
  cases rest with
  | nil => rfl
  | cons x xs =>
    obtain ⟨-, hdot, he, hE⟩ := ends_cons.1 h
    split
    · next heq => simp_all
    · split <;> simp_all [whole]

/-! ## Texts -/

/-- A character that is escaped by its number. -/
def byNumber (c : Char) : Bool :=
  c.toNat < 32 && c.toNat ≠ 8 && c.toNat ≠ 12 && c ≠ '\n' && c ≠ '\r' && c ≠ '\t'

/-- The piece that a character is written as. -/
def pieceOf (c : Char) : Piece := if byNumber c then .unit c.toNat else .char c

theorem hexValue?_hexDigit : ∀ n, n < 16 → hexValue? (hexDigit n) = some n := by decide

theorem hexUnit?_hexDigits {n : Nat} (h : n < 32) :
    hexUnit? '0' '0' (hexDigit (n / 16)) (hexDigit (n % 16)) = some n := by
  have h0 : hexValue? '0' = some 0 := rfl
  simp only [hexUnit?, h0, hexValue?_hexDigit _ (show n / 16 < 16 by omega),
    hexValue?_hexDigit _ (show n % 16 < 16 by omega), Option.bind_eq_bind, Option.bind_some,
    Option.pure_def, Option.some.injEq]
  omega

/-- A character that is not escaped is read as it stands. -/
theorem readPieces_plain {c : Char} (hq : c ≠ '"') (hs : c ≠ '\\') (hn : ¬ c.toNat < 32)
    (cs : List Char) : readPieces (c :: cs) = consPiece (.char c) (readPieces cs) := by
  rw [readPieces, if_neg hq, if_neg hn]
  all_goals simp [hs]

theorem readPieces_escape (c : Char) (cs : List Char) :
    readPieces (escape c ++ cs) = consPiece (pieceOf c) (readPieces cs) := by
  have eq_of : ∀ n, c.toNat = n → c = Char.ofNat n := fun n h => by rw [← h, Char.ofNat_toNat]
  unfold escape
  split
  · next h => subst h; rfl
  split
  · next h => subst h; rfl
  split
  · next h => rw [eq_of 8 h]; rfl
  split
  · next h => rw [eq_of 12 h]; rfl
  split
  · next h => subst h; rfl
  split
  · next h => subst h; rfl
  split
  · next h => subst h; rfl
  split
  · next h8 h12 hn hr ht h =>
    have hb : byNumber c = true := by simp [byNumber, h8, h12, hn, hr, ht, h]
    simp only [List.cons_append, List.nil_append]
    rw [readPieces, hexUnit?_hexDigits h, pieceOf, if_pos hb]
  · next hq hs _ _ _ _ _ h =>
    have hb : byNumber c = false := by simp [byNumber, h]
    rw [pieceOf, if_neg (by simp [hb])]
    exact readPieces_plain hq hs h cs

theorem readPieces_escaped (s rest : List Char) :
    readPieces (s.flatMap escape ++ '"' :: rest) = (s.map pieceOf, .closed rest) := by
  induction s with
  | nil => simp [readPieces]
  | cons c s ih => simp [readPieces_escape, ih, consPiece]

/-- A unit that is a character of its own is joined as that character. -/
theorem joinPieces_unit (ending : PiecesEnd) (cs : List Char) {n : Nat} (h : n < 32) (ps : List Piece) :
    joinPieces ending cs (.unit n :: ps) =
      (joinPieces ending (afterPiece cs) ps).map (Char.ofNat n :: ·) := by
  have hl : isLeading n = false := by simp [isLeading]; omega
  have ht : isTrailing n = false := by simp [isTrailing]; omega
  match ps with
  | [] => simp [joinPieces, hl, ht]
  | .unit m :: ps => simp [joinPieces, hl, ht]
  | .char c :: ps => simp [joinPieces, hl, ht]

theorem joinPieces_pieceOf (rest : List Char) (cs s : List Char) :
    joinPieces (.closed rest) cs (s.map pieceOf) = .ok s := by
  induction s generalizing cs with
  | nil => rfl
  | cons c s ih =>
    rw [List.map_cons, pieceOf]
    split
    · next h =>
      have hc : c.toNat < 32 := by simp only [byNumber, Bool.and_eq_true, decide_eq_true_eq] at h; omega
      rw [joinPieces_unit _ _ hc, ih, Char.ofNat_toNat]
      rfl
    · rw [joinPieces, ih]
      rfl

/-- A written text is read as itself, up to its own closing quote. -/
theorem readWord_escaped (s : String) (rest : List Char) :
    readWord (s.toList.flatMap escape ++ '"' :: rest) = (.text s, rest) := by
  simp [readWord, readPieces_escaped, joinPieces_pieceOf]

end Json
end SchemaAtlas
