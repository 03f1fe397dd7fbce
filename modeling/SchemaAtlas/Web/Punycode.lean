/-!
# Labels beyond ASCII

A label of a domain name that is not plain ASCII is written with its ASCII characters
first; the others follow in increasing order, each as the distance from the one before,
in digits whose weights adapt to the distances seen so far.
-/

namespace SchemaAtlas.Web.Punycode

/-- The digits are the letters, then `0` to `9`. -/
def digit (n : Nat) : Char :=
  if n < 26 then Char.ofNat (97 + n) else Char.ofNat (22 + n)

/-- The digit at weight `k` that still ends a number. -/
def threshold (k bias : Nat) : Nat := min 26 (max 1 (k - bias))

theorem one_le_threshold (k bias : Nat) : 1 ≤ threshold k bias := by
  unfold threshold; omega

/-- The digits of a distance, the least first. -/
def distance (q k bias : Nat) : List Char :=
  let t := threshold k bias
  if q < t then [digit q]
  else digit (t + (q - t) % (36 - t)) :: distance ((q - t) / (36 - t)) (k + 36) bias
termination_by q
decreasing_by
  have h1 := one_le_threshold k bias
  have h2 : (q - threshold k bias) / (36 - threshold k bias) ≤ q - threshold k bias := Nat.div_le_self _ _
  omega

/-- How often a distance is divided down before it is small. -/
def scale (delta k : Nat) : Nat × Nat :=
  if 455 < delta then scale (delta / 35) (k + 36) else (delta, k)
termination_by delta
decreasing_by omega

/-- The bias after a distance; `count` characters are written so far. -/
def adapt (delta count : Nat) (first : Bool) : Nat :=
  let d := if first then delta / 700 else delta / 2
  let (d, k) := scale (d + d / count) 0
  k + 36 * d / (d + 38)

/-- What is carried from one character to the next. -/
structure State where
  delta : Nat := 0
  bias : Nat := 72
  written : Nat
  first : Bool := true
  out : List Char := []

/-- Walks over the label and writes the places of the character `n`. -/
def place (n : Nat) : State → List Nat → State
  | s, [] => s
  | s, c :: cs =>
    if c < n then place n { s with delta := s.delta + 1 } cs
    else if c = n then
      place n { delta := 0, bias := adapt s.delta (s.written + 1) s.first, written := s.written + 1,
                first := false, out := s.out ++ distance s.delta 36 s.bias } cs
    else place n s cs

/-- Writes the characters beyond ASCII, in increasing order; `n` is the least that may
still come. -/
def placeAll (label : List Nat) : (n : Nat) → State → List Nat → State
  | _, s, [] => s
  | n, s, m :: ms =>
    let s := place m { s with delta := s.delta + (m - n) * (s.written + 1) } label
    placeAll label (m + 1) { s with delta := s.delta + 1 } ms

/-- Writes a label in ASCII, without the mark in front. -/
def encode (label : List Char) : List Char :=
  let plain := label.filter (·.toNat < 0x80)
  let rest := ((label.map Char.toNat).filter (0x80 ≤ ·)).mergeSort.eraseReps
  let s := placeAll (label.map Char.toNat) 0x80 { written := plain.length } rest
  plain ++ (if plain.isEmpty then [] else ['-']) ++ s.out

/-! ## Reading -/

/-- The value of a digit. -/
def value? (c : Char) : Option Nat :=
  let n := c.toNat
  if 97 ≤ n && n ≤ 122 then some (n - 97)
  else if 48 ≤ n && n ≤ 57 then some (n - 22)
  else none

/-- Distances and their weights stay below this bound. -/
def bound : Nat := Nat.pow 2 32

/-- Reads a distance and adds it to `i`. A digit below the threshold ends it. -/
def readDistance (bias : Nat) : (i weight k : Nat) → List Char → Option (Nat × List Char)
  | _, _, _, [] => none
  | i, weight, k, c :: cs =>
    match value? c with
    | none => none
    | some d =>
      let i := i + d * weight
      let t := threshold k bias
      if bound ≤ i then none
      else if d < t then some (i, cs)
      else if bound ≤ weight * (36 - t) then none
      else readDistance bias i (weight * (36 - t)) (k + 36) cs

theorem length_lt_of_readDistance {bias i weight k j : Nat} {cs rest : List Char}
    (h : readDistance bias i weight k cs = some (j, rest)) : rest.length < cs.length := by
  induction cs generalizing i weight k with
  | nil => simp [readDistance] at h
  | cons c cs ih =>
    simp only [readDistance] at h
    split at h
    · cases h
    · split at h
      · cases h
      · split at h
        · cases h; simp
        · split at h
          · cases h
          · exact Nat.lt_succ_of_lt (ih h)

/-- Reads the characters beyond ASCII into the label. The next one is `n` or a later
one, and stands at the place `i` or after it. -/
def readPlaces (n i bias : Nat) (label cs : List Char) : Option (List Char) :=
  if cs.isEmpty then some label
  else match _h : readDistance bias i 1 36 cs with
    | none => none
    | some (j, rest) =>
      let count := label.length + 1
      let m := n + j / count
      if m.isValidChar then
        readPlaces m (j % count + 1) (adapt (j - i) count (i = 0))
          (label.insertIdx (j % count) (.ofNat m)) rest
      else none
termination_by cs.length
decreasing_by exact length_lt_of_readDistance _h

/-- Reads a label in ASCII, without the mark in front and in lower case. The plain
characters end at the last hyphen, which may not be the first character. -/
def decode? (cs : List Char) : Option (List Char) :=
  let after := (cs.reverse.takeWhile (· ≠ '-')).reverse
  let plain := cs.take (cs.length - after.length - 1)
  if plain.isEmpty then readPlaces 0x80 0 72 [] cs
  else readPlaces 0x80 0 72 plain after

example : encode "bücher".toList = "bcher-kva".toList := by cbv

example : decode? "bcher-kva".toList = some "bücher".toList := by cbv

end SchemaAtlas.Web.Punycode
