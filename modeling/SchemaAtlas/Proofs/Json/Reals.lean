import SchemaAtlas.Proofs.Decimal.Scaling
import SchemaAtlas.Proofs.Decimal.Shortest
import SchemaAtlas.Proofs.Json.Reading
/-!
# Numbers in single precision read back
-/

namespace SchemaAtlas

namespace Json

open Decimal

/-! ## Decimals computed -/

variable {negative : Bool} {n m : ℕ} {k e : ℤ} {edge : Bool} {rest : List Char}

/-- A small power of ten is applied in one step. -/
theorem ofPlaces_small (hk : k.natAbs ≤ 308) :
    ofPlaces negative n k rest =
      let x := (UInt64.ofNat n).toFloat
      let y := if 0 ≤ k then x * power k.natAbs else x / power k.natAbs
      if 0 ≤ k && y.isInf then .tooLarge rest else .real (if negative then -y else y) := by
  rw [ofPlaces, max_eq_left (by omega), scaled, if_pos hk]
  rfl

theorem not_isInf_of_isDouble {x : Float} {sign : Float.Model.UnpackedFloat.Sign} {v : ℚ} (h : IsDouble x sign v) :
    x.isInf = false := by
  obtain ⟨m, e, ⟨h, hu⟩, -⟩ := h
  change x.toModel.unpack.isInf = false
  rw [hu]
  rfl

theorem moderate_of_stands {θ τ : ℚ} {l : ℤ} (h : Stands θ τ l) (hn : 0 < n) (hn' : n < 2 ^ 53)
    (hlow : 10 ^ (-46 : ℤ) ≤ θ) (hhigh : θ ≤ 10 ^ (38 : ℤ)) : Moderate (n * τ) := by
  have hnq : (1 : ℚ) ≤ n := by exact_mod_cast hn
  have hnq' : (n : ℚ) ≤ 2 ^ 53 := by exact_mod_cast hn'.le
  have habove := h.above
  have hbelow := h.below
  have hτ : 10 ^ (-46 : ℤ) / 2 ≤ τ := by
    refine le_trans ?_ habove
    norm_num at *
    linarith
  have hτ' : τ ≤ 10 ^ (38 : ℤ) * 2 := by
    refine le_trans hbelow ?_
    norm_num at *
    linarith
  constructor
  · calc (2 : ℚ) ^ (-1000 : ℤ) ≤ 2 ^ (-160 : ℤ) := zpow_le_zpow_right₀ (by norm_num) (by norm_num)
      _ ≤ 10 ^ (-46 : ℤ) / 2 := by norm_num
      _ ≤ τ := hτ
      _ ≤ n * τ := le_mul_of_one_le_left (le_trans (by norm_num) hτ) hnq
  · calc (n : ℚ) * τ ≤ 2 ^ 53 * (10 ^ (38 : ℤ) * 2) := mul_le_mul hnq' hτ' (le_trans (by norm_num) hτ) (by norm_num)
      _ ≤ 2 ^ (190 : ℤ) := by norm_num
      _ ≤ 2 ^ (1000 : ℤ) := zpow_le_zpow_right₀ (by norm_num) (by norm_num)

/-- A decimal is computed by one rounded operation. -/
theorem ofPlaces_spec (hn : 0 < n) (hn' : n < 2 ^ 53) (hlow : -46 ≤ k) (hhigh : k ≤ 38) (negative : Bool) :
    ∃ w y, RoundsTo (n * standIn k) w ∧ IsDouble y (signOf negative) w ∧
      ∀ rest, ofPlaces negative n k rest = .real y := by
  obtain ⟨l, hstands⟩ := stands_standIn hlow hhigh
  have hmoderate := moderate_of_stands hstands hn hn' (zpow_le_zpow_right₀ (by norm_num) hlow)
    (zpow_le_zpow_right₀ (by norm_num) hhigh)
  have hint := isDouble_ofNat hn hn'
  have hpower := isDouble_power (j := k.natAbs) (by omega)
  set y := if 0 ≤ k then (UInt64.ofNat n).toFloat * power k.natAbs else (UInt64.ofNat n).toFloat / power k.natAbs
    with hy
  obtain ⟨w, hw, hdouble⟩ : ∃ w, RoundsTo (n * standIn k) w ∧ IsDouble y .positive w := by
    by_cases hk : 0 ≤ k
    · simp only [hy, standIn, if_pos hk] at hmoderate ⊢
      exact isDouble_mul hint hpower hmoderate
    · simp only [hy, standIn, if_neg hk] at hmoderate ⊢
      have hquotient : (n : ℚ) * (2 ^ 52 / powerUnits k.natAbs) = n / (powerUnits k.natAbs / 2 ^ 52) := by
        rw [div_div_eq_mul_div, mul_div_assoc]
      rw [hquotient] at hmoderate ⊢
      exact isDouble_div hint hpower hmoderate
  refine ⟨w, if negative then -y else y, hw, ?_, fun rest => ?_⟩
  · cases negative
    · exact hdouble
    · exact isDouble_neg hdouble
  · rw [ofPlaces_small (by omega)]
    simp only [← hy, not_isInf_of_isDouble hdouble, Bool.and_false, Bool.false_eq_true, if_false]

/-- The shortest decimal of a number is computed as a number that is narrowed to it. -/
theorem ofPlaces_shortest {x : Float32} (hx : Decimal.single x = .finite negative m e edge) (hm : 0 < m) :
    ∃ y, narrow y = x ∧
      ∀ rest, ofPlaces negative (shortest m e edge).point (shortest m e edge).scale rest = .real y := by
  obtain ⟨-, hm', hlow, hhigh, -, hedge⟩ := single_finite hx
  have hg := @shortest_spec m e edge hm hm' hlow hhigh
  generalize shortest m e edge = g at hg ⊢
  obtain ⟨w, y, hw, hy, hread⟩ := ofPlaces_spec hg.pos (by have := hg.small; omega) hg.low hg.high negative
  obtain ⟨l, hstands⟩ := stands_standIn hg.low hg.high
  have hinside := hstands.inside hw hg.pos hm hm' (fun h => (hedge.1 h).1) hg.inside hg.above hg.below
  exact ⟨y, narrow_eq hx hm hy hinside, hread⟩

/-! ## Decimals read -/

/-- A text that does not start with a digit. -/
def Stops (cs : List Char) : Prop := ∀ c ∈ cs.head?, c.isDigit = false

theorem stops_cons {c : Char} {cs : List Char} (h : c.isDigit = false) : Stops (c :: cs) := by simpa [Stops] using h

theorem Ends.stops {cs : List Char} (h : Ends cs) : Stops cs := fun c hc => (h c hc).1

variable {ds fs : List Char} {places : ℤ}

/-- Digits are taken up to where they stop. -/
theorem takeWord_digits (hd : ∀ c ∈ ds, c.isDigit = true) (hv : value n ds ≤ maxWord) (hr : Stops rest) :
    takeWord n (ds ++ rest) = (value n ds, rest) := by
  rw [takeWord_append n ds rest hd hv]
  cases rest with
  | nil => rfl
  | cons c cs => rw [takeWord, if_neg (by simp [hr c rfl])]

theorem dropWhile_digits (hr : Stops rest) : rest.dropWhile Char.isDigit = rest := by
  cases rest with
  | nil => rfl
  | cons c cs => simp [hr c rfl]

theorem takeWhile_digits (hr : Stops rest) : rest.takeWhile Char.isDigit = [] := by
  cases rest with
  | nil => rfl
  | cons c cs => simp [hr c rfl]

theorem readFraction_digits (hne : ds ≠ []) (hd : ∀ c ∈ ds, c.isDigit = true) (hv : value n ds ≤ maxWord)
    (hr : Stops rest) :
    readFraction negative n places (ds ++ rest) = readScale negative (value n ds) (places - ds.length) rest := by
  obtain ⟨c, cs, rfl⟩ := List.exists_cons_of_ne_nil hne
  have hword := takeWord_digits hd hv hr
  have hc : c.isDigit = true := hd c (by simp)
  rw [List.cons_append] at hword ⊢
  simp only [readFraction, hc, Bool.not_true, Bool.false_eq_true, if_false, hword, dropWhile_digits hr]
  congr 2
  simp only [List.length_cons, List.length_append]
  omega

theorem readScale_ends (hr : Ends rest) : readScale negative n places rest = .number (ofPlaces negative n places rest) rest := by
  cases rest with
  | nil => rfl
  | cons c cs =>
    obtain ⟨-, -, he, hE⟩ := ends_cons.1 hr
    unfold readScale
    split
    · next heq => cases heq; exact absurd rfl he
    · next heq => cases heq; exact absurd rfl hE
    · rfl

/-- Digits with which a number may start: a leading zero is the only digit. -/
def Leads (ds : List Char) : Prop := ∃ c cs, ds = c :: cs ∧ c.isDigit = true ∧ (c = '0' → cs = [])

/-- Reads what follows the digits of a number that fits 64 bits. -/
def afterDigits (negative : Bool) (n : ℕ) : List Char → NumberRead
  | '.' :: r => readFraction negative n 0 r
  | 'e' :: r => readExponent negative n 0 r
  | 'E' :: r => readExponent negative n 0 r
  | rest => .number (whole negative n) rest

theorem readUnsigned_leads (negative : Bool) (hl : Leads ds) (hd : ∀ c ∈ ds, c.isDigit = true) (hv : value 0 ds ≤ maxWord) (hr : Stops rest) :
    readUnsigned negative (ds ++ rest) = afterDigits negative (value 0 ds) rest := by
  obtain ⟨c, cs, rfl, hc, hzero⟩ := hl
  have hword := takeWord_digits hd hv hr
  have hlead : (c == '0' && ((cs ++ rest).head?.map Char.isDigit).getD false) = false := by
    by_cases h0 : c = '0'
    · rw [hzero h0]
      cases rest with
      | nil => simp
      | cons x xs => simp [hr x rfl]
    · simp [h0]
  rw [List.cons_append] at hword ⊢
  simp only [readUnsigned, hc, hlead, hword, Bool.not_true, Bool.false_eq_true, if_false, takeWhile_digits hr,
    dropWhile_digits hr]
  unfold afterDigits
  split
  · rfl
  · split <;> simp_all

theorem ne_of_isDigit {c x : Char} (hc : c.isDigit = true) (hx : x.isDigit = false) : c ≠ x := by
  rintro rfl
  rw [hc] at hx
  cases hx

/-- An exponent with its sign. -/
theorem readExponent_digits {i : ℤ} (hi : i.natAbs ≤ maxExponent) (hr : Stops rest) :
    readExponent negative n places ((if i < 0 then '-' else '+') :: digits i.natAbs ++ rest) =
      .number (ofPlaces negative n (places + i) rest) rest := by
  obtain ⟨c, cs, hc, -⟩ := head_digits i.natAbs
  have hdigit : c.isDigit = true := isDigit_of_mem_digits (n := i.natAbs) (by simp [hc])
  have htake : (digits i.natAbs ++ rest).takeWhile Char.isDigit = digits i.natAbs := by
    rw [List.takeWhile_append_of_pos fun _ => isDigit_of_mem_digits, takeWhile_digits hr, List.append_nil]
  have hdrop : (digits i.natAbs ++ rest).dropWhile Char.isDigit = rest := by
    rw [List.dropWhile_append_of_pos fun _ => isDigit_of_mem_digits, dropWhile_digits hr]
  have hvalue := value_digits i.natAbs
  rw [hc, List.cons_append] at htake hdrop
  rw [hc] at hvalue ⊢
  split
  · next hneg =>
    simp only [readExponent, List.cons_append, htake, hdrop, hvalue, hdigit, hi, if_true, Bool.not_true,
      Bool.false_eq_true, if_false]
    congr 2
    omega
  · next hnonneg =>
    simp only [readExponent, List.cons_append, htake, hdrop, hvalue, hdigit, hi, if_true, Bool.not_true,
      Bool.false_eq_true, if_false]
    congr 2
    omega

theorem leads_digits (hn : 0 < n) (fs : List Char) : Leads (digits n ++ fs) := by
  obtain ⟨c, cs, hc, hzero⟩ := head_digits n
  refine ⟨c, cs ++ fs, by rw [hc, List.cons_append], isDigit_of_mem_digits (n := n) (by simp [hc]), fun h => ?_⟩
  have hvalue := value_digits n
  rw [hc, hzero h, h] at hvalue
  simp [value, digitValue] at hvalue
  omega

theorem Leads.take (h : Leads ds) {i : ℕ} (hi : 0 < i) : Leads (ds.take i) := by
  obtain ⟨c, cs, rfl, hc, hzero⟩ := h
  obtain ⟨i, rfl⟩ : ∃ k, i = k + 1 := ⟨i - 1, by omega⟩
  exact ⟨c, cs.take i, rfl, hc, fun h => by rw [hzero h, List.take_nil]⟩

/-- Digits with a point among them. -/
theorem readUnsigned_point (negative : Bool) (fs : List Char) (hl : Leads ds) (hd : ∀ c ∈ ds ++ fs, c.isDigit = true) (hne : fs ≠ [])
    (hv : value 0 (ds ++ fs) ≤ maxWord) (hr : Stops rest) :
    readUnsigned negative (ds ++ '.' :: fs ++ rest) =
      readScale negative (value 0 (ds ++ fs)) (-fs.length) rest := by
  rw [value_append] at hv ⊢
  rw [List.append_assoc, List.cons_append,
    readUnsigned_leads negative hl (fun c hc => hd c (List.mem_append_left _ hc)) (le_trans (le_value _ fs) hv)
      (stops_cons rfl)]
  change readFraction negative (value 0 ds) 0 (fs ++ rest) = _
  rw [readFraction_digits hne (fun c hc => hd c (List.mem_append_right _ hc)) hv hr, zero_sub]

theorem readUnsigned_pointAfter {i : ℕ} (hn : 0 < n) (hv : n ≤ maxWord) (hi : 0 < i) (hi' : i < (digits n).length)
    (hr : Stops rest) :
    readUnsigned negative (pointAfter i (digits n) ++ rest) =
      readScale negative n (i - (digits n).length) rest := by
  have hleads : Leads (digits n) := by simpa using leads_digits hn []
  have hsplit := List.take_append_drop i (digits n)
  have hread := readUnsigned_point negative ((digits n).drop i) (hleads.take hi)
    (by rw [hsplit]; exact fun _ => isDigit_of_mem_digits) (by simpa using hi') (by rwa [hsplit, value_digits]) hr
  rw [hsplit, value_digits, List.length_drop] at hread
  rw [pointAfter, hread]
  congr 1
  omega

theorem value_zeros (n i : ℕ) : value n (List.replicate i '0') = n * 10 ^ i := by
  induction i generalizing n with
  | zero => simp [value]
  | succ i ih =>
    have hstep : value n (List.replicate (i + 1) '0') = value (n * 10) (List.replicate i '0') := by
      simp [value, List.replicate_succ, digitValue]
    rw [hstep, ih, pow_succ]
    ring

theorem isDigit_of_mem_zeros {i : ℕ} {c : Char} (h : c ∈ List.replicate i '0') : c.isDigit = true := by
  obtain rfl := List.eq_of_mem_replicate h
  rfl

/-- The power of ten of the first digit. -/
def firstPlace (g : Grid) : ℤ := (digits g.point).length - 1 + g.scale

/-- The decimal that a text is read as: one that is written as a whole number has one more place. -/
def rewritten (f : Style) (g : Grid) : Grid :=
  if (f.lowest ≤ firstPlace g && firstPlace g ≤ f.highest) && 0 ≤ g.scale then
    ⟨g.point * 10 ^ (g.scale.toNat + 1), -1⟩
  else g

variable {g : Grid}

theorem length_digits_pos (n : ℕ) : 0 < (digits n).length := by
  obtain ⟨c, cs, hc, -⟩ := head_digits n
  simp [hc]

/-- A decimal below one. -/
theorem readUnsigned_below (hv : g.point ≤ maxWord) (hneg : firstPlace g < 0) (hr : Ends rest) :
    readUnsigned negative
        ('0' :: '.' :: (List.replicate (-firstPlace g - 1).toNat '0' ++ digits g.point) ++ rest) =
      .number (ofPlaces negative g.point g.scale rest) rest := by
  have hvalue : value 0 (['0'] ++ (List.replicate (-firstPlace g - 1).toNat '0' ++ digits g.point)) = g.point := by
    rw [value_append, value_append, show value 0 ['0'] = 0 from rfl, value_zeros, zero_mul, value_digits]
  have hlen := length_digits_pos g.point
  have hread := readUnsigned_point negative
    (List.replicate (-firstPlace g - 1).toNat '0' ++ digits g.point) ⟨'0', [], rfl, rfl, fun _ => rfl⟩
    (fun c hc => by
      simp only [List.mem_append, List.mem_singleton] at hc
      rcases hc with rfl | hc | hc
      exacts [rfl, isDigit_of_mem_zeros hc, isDigit_of_mem_digits hc])
    (List.append_ne_nil_of_right_ne_nil _ (List.ne_nil_of_length_pos hlen)) (by rwa [hvalue]) hr.stops
  rw [hvalue, readScale_ends hr] at hread
  refine hread.trans ?_
  congr 2
  simp only [List.length_append, List.length_replicate, firstPlace] at hneg ⊢
  omega

/-- A whole number. -/
theorem readUnsigned_whole {i : ℕ} (hn : 0 < n) (hv : n * 10 ^ (i + 1) ≤ maxWord) (hr : Ends rest) :
    readUnsigned negative (digits n ++ List.replicate i '0' ++ ['.', '0'] ++ rest) =
      .number (ofPlaces negative (n * 10 ^ (i + 1)) (-1) rest) rest := by
  have hvalue : value 0 (digits n ++ List.replicate i '0' ++ ['0']) = n * 10 ^ (i + 1) := by
    rw [value_append, value_append, value_digits, value_zeros, pow_succ, ← mul_assoc]
    rfl
  have hread := readUnsigned_point negative ['0'] (leads_digits hn (List.replicate i '0'))
    (fun c hc => by
      simp only [List.mem_append, List.mem_singleton] at hc
      rcases hc with (hc | hc) | rfl
      exacts [isDigit_of_mem_digits hc, isDigit_of_mem_zeros hc, rfl])
    (by simp) (by rwa [hvalue]) hr.stops
  rw [hvalue, readScale_ends hr] at hread
  exact hread

/-- A decimal with an exponent. -/
theorem readUnsigned_exponent (hpos : 0 < g.point) (hv : g.point ≤ maxWord) (he : (firstPlace g).natAbs ≤ maxExponent)
    (hr : Ends rest) :
    readUnsigned negative
        ((if (digits g.point).length = 1 then digits g.point else pointAfter 1 (digits g.point)) ++
          'e' :: (if firstPlace g < 0 then '-' else '+') :: digits (firstPlace g).natAbs ++ rest) =
      .number (ofPlaces negative g.point g.scale rest) rest := by
  have hlen := length_digits_pos g.point
  have hstop : Stops ('e' :: (if firstPlace g < 0 then '-' else '+') :: digits (firstPlace g).natAbs ++ rest) :=
    stops_cons rfl
  rw [List.append_assoc]
  split
  · next hone =>
    have hread := readUnsigned_leads negative
      (by simpa using leads_digits hpos []) (fun _ => isDigit_of_mem_digits) (by rwa [value_digits]) hstop
    rw [value_digits] at hread
    refine hread.trans ((readExponent_digits he hr.stops).trans ?_)
    congr 2
    simp only [firstPlace]
    omega
  · next hmany =>
    refine (readUnsigned_pointAfter hpos hv (by norm_num) (by omega) hstop).trans
      ((readExponent_digits he hr.stops).trans ?_)
    congr 2
    simp only [firstPlace]
    omega

/-- A whole number that is written with all its digits has 13 of them at most. -/
theorem whole_lt (hscale : 0 ≤ g.scale) (hfirst : firstPlace g ≤ 12) : g.point * 10 ^ g.scale.toNat < 10 ^ 13 := by
  unfold firstPlace at hfirst
  calc g.point * 10 ^ g.scale.toNat < 10 ^ (digits g.point).length * 10 ^ g.scale.toNat :=
        Nat.mul_lt_mul_of_pos_right (lt_pow_digits _) (by positivity)
    _ = 10 ^ ((digits g.point).length + g.scale.toNat) := (pow_add _ _ _).symm
    _ ≤ 10 ^ 13 := Nat.pow_le_pow_right (by norm_num) (by omega)

theorem write_eq (f : Style) (g : Grid) :
    f.write g =
      if f.lowest ≤ firstPlace g && firstPlace g ≤ f.highest then
        if firstPlace g < 0 then '0' :: '.' :: (List.replicate (-firstPlace g - 1).toNat '0' ++ digits g.point)
        else if g.scale < 0 then pointAfter (firstPlace g + 1).toNat (digits g.point)
        else digits g.point ++ List.replicate g.scale.toNat '0' ++ ['.', '0']
      else
        (if (digits g.point).length = 1 then digits g.point else pointAfter 1 (digits g.point)) ++
          'e' :: (if firstPlace g < 0 then '-' else '+') :: digits (firstPlace g).natAbs := rfl

/-- The text of a decimal is read as the decimal. -/
theorem readUnsigned_write (hpos : 0 < g.point) (hsmall : g.point < 2 ^ 30) (hlow : -46 ≤ g.scale)
    (hhigh : g.scale ≤ 38) (hr : Ends rest) :
    readUnsigned negative (singleStyle.write g ++ rest) =
      .number (ofPlaces negative (rewritten singleStyle g).point (rewritten singleStyle g).scale rest) rest := by
  have hword : 2 ^ 30 ≤ maxWord := by decide
  have hexponent : 2 ^ 10 ≤ maxExponent := by decide
  have hlen := length_digits_pos g.point
  have hlen' : (digits g.point).length ≤ 10 := length_digits_le (by norm_num) (by omega)
  have hfirst : firstPlace g = (digits g.point).length - 1 + g.scale := rfl
  rw [write_eq, rewritten]
  by_cases hstyle : (singleStyle.lowest ≤ firstPlace g && firstPlace g ≤ singleStyle.highest) = true
  · simp only [hstyle, if_true, Bool.true_and, decide_eq_true_eq]
    split
    · next hneg =>
      rw [if_neg (by omega)]
      exact readUnsigned_below (by omega) hneg hr
    · next hnonneg =>
      split
      · next hscale =>
        rw [if_neg (by omega)]
        refine (readUnsigned_pointAfter hpos (by omega) (by omega) (by omega) hr.stops).trans ?_
        rw [readScale_ends hr]
        congr 2
        omega
      · next hscale =>
        rw [if_pos (by omega)]
        refine readUnsigned_whole hpos ?_ hr
        have hwhole := whole_lt (by omega) (of_decide_eq_true (Bool.and_eq_true_iff.1 hstyle).2)
        rw [pow_succ, ← mul_assoc]
        have : 10 ^ 14 ≤ maxWord := by decide
        omega
  · simp only [hstyle, if_false, Bool.false_and, Bool.false_eq_true]
    exact readUnsigned_exponent hpos (by omega) (by omega) hr

/-! ## Numbers read back -/

theorem standIn_tenth : standIn (-1) = 1 / 10 := by
  rw [standIn, if_neg (by norm_num), show (-1 : ℤ).natAbs = 1 from rfl, powerUnits_exact 1 (by norm_num)]
  norm_num

/-- The text of the shortest decimal is computed as a number that is narrowed to the number. -/
theorem ofPlaces_rewritten {x : Float32} (hx : Decimal.single x = .finite negative m e edge) (hm : 0 < m) :
    ∃ y, narrow y = x ∧ ∀ rest, ofPlaces negative (rewritten singleStyle (shortest m e edge)).point
      (rewritten singleStyle (shortest m e edge)).scale rest = .real y := by
  unfold rewritten
  split
  · next hstyle =>
    obtain ⟨hstyle, hscale⟩ := Bool.and_eq_true_iff.1 hstyle
    have hwhole := whole_lt (of_decide_eq_true hscale) (of_decide_eq_true (Bool.and_eq_true_iff.1 hstyle).2)
    obtain ⟨-, hm', hlow, hhigh, -, hedge⟩ := single_finite hx
    have hg := @shortest_spec m e edge hm hm' hlow hhigh
    generalize shortest m e edge = g at hg hwhole hscale ⊢
    obtain ⟨i, hi⟩ : ∃ i : ℕ, g.scale = i := ⟨g.scale.toNat, by simpa using of_decide_eq_true hscale⟩
    have hinside := hg.inside
    rw [hi] at hinside
    rw [hi, Int.toNat_natCast] at hwhole ⊢
    have hpos := hg.pos
    obtain ⟨w, y, hw, hy, hread⟩ := ofPlaces_spec (n := g.point * 10 ^ (i + 1)) (k := -1) (by positivity)
      (by rw [pow_succ, ← mul_assoc]; omega) (by norm_num) (by norm_num) negative
    -- The number is exact in double precision.
    have hvalue : ((g.point * 10 ^ (i + 1) : ℕ) : ℚ) * standIn (-1) = (g.point * 10 ^ i : ℕ) * 2 ^ (0 : ℤ) := by
      rw [standIn_tenth, pow_succ]
      push_cast
      ring
    rw [hvalue] at hw
    have hexact := hw.eq_of_bits (by omega)
    rw [zpow_natCast] at hinside
    rw [zpow_zero, mul_one] at hexact
    push_cast at hexact
    exact ⟨y, narrow_eq hx hm hy (hexact ▸ hinside), hread⟩
  · exact ofPlaces_shortest hx hm

theorem readUnsigned_zero (negative : Bool) : ∃ y, (narrow y).toBits.toNat = (if negative then 2 ^ 31 else 0) ∧
    ∀ rest, Ends rest → readUnsigned negative (['0', '.', '0'] ++ rest) = .number (.real y) rest := by
  refine ⟨if negative then -((UInt64.ofNat 0).toFloat / power 1) else (UInt64.ofNat 0).toFloat / power 1, ?_,
    fun rest hr => ?_⟩
  · revert negative
    decide +kernel
  · refine (readUnsigned_point negative ['0'] ⟨'0', [], rfl, rfl, fun _ => rfl⟩
      (fun _ hc => isDigit_of_mem_zeros (i := 2) hc) (by simp) (by decide) hr.stops).trans ?_
    rw [readScale_ends hr]
    congr 1

/-- What is read as a number starts with a digit. -/
theorem isDigit_of_readUnsigned {cs : List Char} {num : Number} (h : readUnsigned negative cs = .number num rest) :
    ∃ c r, cs = c :: r ∧ c.isDigit = true := by
  cases cs with
  | nil => cases h
  | cons c r =>
    refine ⟨c, r, rfl, ?_⟩
    cases hc : c.isDigit with
    | true => rfl
    | false =>
      simp only [readUnsigned, hc, Bool.not_false, if_true] at h
      cases h

theorem reads_number {cs : List Char} {num : Number}
    (h : ∀ rest, Ends rest → readUnsigned negative (cs ++ rest) = .number num rest) :
    Reads ((if negative then ['-'] else []) ++ cs) (.number num) := by
  obtain ⟨c, r, hcs, hc⟩ := isDigit_of_readUnsigned (h [] ends_nil)
  rw [List.append_nil] at hcs
  have ne : ∀ x : Char, x.isDigit = false → c ≠ x := fun x => ne_of_isDigit hc
  cases negative
  · refine ⟨⟨c, r, hcs, not_isSpace_of_isDigit hc, ne _ rfl⟩, fun fuel rest hf he => ?_⟩
    obtain ⟨fuel, rfl⟩ : ∃ k, fuel = k + 1 := ⟨fuel - 1, by omega⟩
    have hr := h rest he
    subst hcs
    simp only [Bool.false_eq_true, if_false, List.nil_append, List.cons_append] at hr ⊢
    simp only [readValue, skipSpace_cons (not_isSpace_of_isDigit hc)]
    rw [if_neg (ne _ rfl), if_neg (ne _ rfl), if_neg (ne _ rfl), if_neg (ne _ rfl), if_neg (ne _ rfl),
      if_neg (ne _ rfl), if_neg (ne _ rfl), if_pos hc, hr]
    rfl
  · refine ⟨⟨'-', cs, rfl, rfl, by decide⟩, fun fuel rest hf he => ?_⟩
    obtain ⟨fuel, rfl⟩ : ∃ k, fuel = k + 1 := ⟨fuel - 1, by omega⟩
    simp only [if_true, List.cons_append, List.nil_append, readValue, skipSpace_cons (show isSpace '-' = false from rfl),
      h rest he]
    rfl

theorem Reads.tree {cs : List Char} {t : Tree} (h : Reads cs t) : (readTree cs).1 = t := by
  have hread := h.read (cs.length + 1) [] (by omega) ends_nil
  rw [List.append_nil] at hread
  rw [readTree, hread]

end Json

/-- A number has a decimal text. -/
def Decimal.Binary.isFinite : Decimal.Binary → Bool
  | .finite .. => true
  | _ => false

namespace Json

open Decimal

variable {x : Float32}

/-- The text of a finite number is read as a number that is narrowed to it. -/
theorem reads_real (hx : (Decimal.single x).isFinite = true) :
    ∃ y, narrow y = x ∧ Reads (realText x) (.number (.real y)) := by
  unfold realText
  generalize hbits : Decimal.single x = b at hx ⊢
  cases b with
  | nan => cases hx
  | infinite => cases hx
  | finite negative m e edge =>
    cases m with
    | zero =>
      obtain ⟨y, hy, hread⟩ := readUnsigned_zero negative
      refine ⟨y, eq_of_toBits ?_, reads_number hread⟩
      obtain ⟨hparts, -, -, -, hwide, -⟩ := single_finite hbits
      rw [hy, hparts]
      omega
    | succ m =>
      obtain ⟨-, hm', hlow, hhigh, -, -⟩ := single_finite hbits
      obtain ⟨y, hy, hread⟩ := ofPlaces_rewritten hbits m.succ_pos
      have hg := @shortest_spec (m + 1) e edge m.succ_pos hm' hlow hhigh
      refine ⟨y, hy, reads_number fun rest hr => ?_⟩
      rw [readUnsigned_write hg.pos hg.small hg.low hg.high hr, hread]

/-- What is not finite is written as `null`. -/
theorem realText_of_infinite (hx : (Decimal.single x).isFinite = false) : realText x = ['n', 'u', 'l', 'l'] := by
  unfold realText
  cases hbits : Decimal.single x with
  | nan => rfl
  | infinite => rfl
  | finite => rw [hbits] at hx; cases hx

theorem reads_null : Reads ['n', 'u', 'l', 'l'] .null := reads_literal (.inl ⟨rfl, rfl, rfl⟩)

/-- The text of any number can be read. -/
theorem exact_real (x : Float32) : (Value.real x).Exact := by
  change Reads (realText x) (readTree (realText x)).1
  cases hx : (Decimal.single x).isFinite
  · rw [realText_of_infinite hx, reads_null.tree]
    exact reads_null
  · obtain ⟨y, -, hread⟩ := reads_real hx
    rwa [hread.tree]

/-- A finite number is decoded as itself. -/
theorem single_tree (hx : (Decimal.single x).isFinite = true) : single (Value.real x).tree = .ok x := by
  obtain ⟨y, hy, hread⟩ := reads_real hx
  rw [Value.tree, hread.tree]
  exact congrArg Except.ok hy

/-- A number that is not finite is not decoded. -/
theorem single_tree_of_infinite (hx : (Decimal.single x).isFinite = false) :
    single (Value.real x).tree = .error (.data (.wrongType .null "f32")) := by
  rw [Value.tree, realText_of_infinite hx, reads_null.tree]
  rfl

end Json
end SchemaAtlas
