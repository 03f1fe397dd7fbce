/-!
# Decimal digits

Natural numbers as digit strings without leading zeros, and the value of a digit
string.
-/

namespace SchemaAtlas.Decimal

/-- The digit of a number below ten. -/
def digit (n : Nat) : Char := Char.ofNat (48 + n % 10)

/-- The digits of a number, without leading zeros. -/
def digits (n : Nat) : List Char :=
  if n < 10 then [digit n] else digits (n / 10) ++ [digit (n % 10)]
termination_by n
decreasing_by omega

/-- The digits of a number as a text. -/
def text (n : Nat) : String := String.ofList (digits n)

/-- The value of a digit. -/
def digitValue (c : Char) : Nat := c.toNat - 48

/-- The value of a digit string that continues the digits of `n`. -/
def value (n : Nat) (cs : List Char) : Nat := cs.foldl (fun v c => v * 10 + digitValue c) n

/-- Reads a text of digits, with an optional plus sign, as a number below `bound`. -/
def below? (bound : Nat) (cs : List Char) : Option Nat :=
  let ds := match cs with
    | '+' :: r => r
    | r => r
  if ds.isEmpty || ds.any (!·.isDigit) then none
  else
    let n := value 0 ds
    if n < bound then some n else none

end SchemaAtlas.Decimal
