import SchemaAtlas.Decimal.Binary
import SchemaAtlas.Decimal.Digits
/-!
# Shortest decimal text

The shortest text of a floating-point number has the fewest digits that still read
back as the same number; of those texts it is the nearest to the number. The digits
are found by trying coarser decimal grids before finer ones: the first grid with a
point in the number's rounding interval wins.
-/

namespace SchemaAtlas.Decimal

/-- `point * 10 ^ scale`. -/
structure Grid where
  point : Nat
  scale : Int
deriving DecidableEq, Repr

/-- The point of the grid `10 ^ k` nearest to `m * 2 ^ e` among its two neighbours that
lie in the rounding interval. -/
def gridPoint? (m : Nat) (e : Int) (edge : Bool) (k : Int) : Option Nat :=
  -- numbers are counted in quarters of the last binary place
  let up := Nat.pow 2 (e - 2).toNat * Nat.pow 10 (-k).toNat
  let down := Nat.pow 2 (2 - e).toNat * Nat.pow 10 k.toNat
  let v := 4 * m * up
  let lo := (4 * m - if edge then 1 else 2) * up
  let hi := (4 * m + 2) * up
  let fits (c : Nat) : Bool :=
    if m % 2 == 0 then lo ≤ c * down && c * down ≤ hi else lo < c * down && c * down < hi
  let below := v / down
  let above := below + 1
  match fits below, fits above with
  | false, false => none
  | true, false => some below
  | false, true => some above
  | true, true =>
    let left := v - below * down
    let right := above * down - v
    if left < right then some below
    else if right < left then some above
    else if below % 2 == 0 then some below else some above

/-- The first grid with a point, from the scale `k` down; `n` bounds the number of
grids tried. -/
def coarsest? (m : Nat) (e : Int) (edge : Bool) : (n : Nat) → (k : Int) → Option Grid
  | 0, _ => none
  | n + 1, k =>
    match gridPoint? m e edge k with
    | some c => if c = 0 then coarsest? m e edge n (k - 1) else some ⟨c, k⟩
    | none => coarsest? m e edge n (k - 1)

/-- The shortest decimal of `m * 2 ^ e`, where `m` is not zero. -/
def shortest (m : Nat) (e : Int) (edge : Bool) : Grid :=
  let top := (digits (m * Nat.pow 2 e.toNat)).length
  (coarsest? m e edge 1200 top).getD ⟨m, 0⟩

/-- How a shortest decimal is written: the powers of ten of the first digit that are
written positionally. Others have an exponent with its sign. -/
structure Style where
  lowest : Int
  highest : Int

/-- Digits with a point after the first `n` of them. -/
def pointAfter (n : Nat) (ds : List Char) : List Char := ds.take n ++ '.' :: ds.drop n

/-- Writes a decimal. Positional texts always have a point. -/
def Style.write (f : Style) (g : Grid) : List Char :=
  let ds := digits g.point
  let first : Int := ds.length - 1 + g.scale
  if f.lowest ≤ first && first ≤ f.highest then
    if first < 0 then '0' :: '.' :: (List.replicate (-first - 1).toNat '0' ++ ds)
    else if g.scale < 0 then pointAfter (first + 1).toNat ds
    else ds ++ List.replicate g.scale.toNat '0' ++ ['.', '0']
  else
    let lead := if ds.length = 1 then ds else pointAfter 1 ds
    lead ++ 'e' :: (if first < 0 then '-' else '+') :: digits first.natAbs

/-- The text of a floating-point value, where it has one. -/
def Style.text? (f : Style) : Binary → Option (List Char)
  | .finite negative 0 _ _ => some ((if negative then ['-'] else []) ++ ['0', '.', '0'])
  | .finite negative m e edge =>
    some ((if negative then ['-'] else []) ++ f.write (shortest m e edge))
  | _ => none

/-- Single-precision numbers from 10^-6 up to below 10^13 are written positionally. -/
def singleStyle : Style := ⟨-6, 12⟩

/-- Double-precision numbers from 10^-5 up to below 10^16 are written positionally. -/
def doubleStyle : Style := ⟨-5, 15⟩

end SchemaAtlas.Decimal
