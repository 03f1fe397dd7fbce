/-!
# Parentheses and quotations in a dump

The body of a table is found by counting parentheses outside quotations. A
quotation starts at `'`, `"` or a backtick and ends at the next occurrence of the
same character; nothing inside it counts. `closingParen` finds the end of a body
whose opening parenthesis was already read, `pieces` cuts a body at its commas
outside quotations and parentheses, so `DECIMAL(10,2)` stays in one piece.
-/

namespace SchemaAtlas.Dump

/-- Where a scan stands: in a quotation that ends at `quote`, or outside of one, and
how many parentheses are open. -/
structure Scan where
  quote : Option Char := none
  depth : Int := 0
deriving DecidableEq, Repr

/-- The characters that start a quotation. -/
def isQuote (c : Char) : Bool := c == '\'' || c == '"' || c == '`'

namespace Scan

/-- The scan after one more character. -/
def step (s : Scan) (c : Char) : Scan :=
  match s.quote with
  | some q => if c = q then { s with quote := none } else s
  | none =>
    if isQuote c then { s with quote := some c }
    else if c = '(' then { s with depth := s.depth + 1 }
    else if c = ')' then { s with depth := s.depth - 1 }
    else s

/-- The scan after a text. -/
def run (s : Scan) (cs : List Char) : Scan := cs.foldl step s

/-- Outside quotations and parentheses. -/
def atTop (s : Scan) : Bool := s.quote.isNone && s.depth == 0

/-- A text that leaves the scan where it starts: all its quotations and parentheses
are closed. -/
def Balanced (cs : List Char) : Prop := run {} cs = {}

instance (cs : List Char) : Decidable (Balanced cs) := inferInstanceAs (Decidable (_ = _))

end Scan

/-- Splits a text at the first `)` met at the top level: the text before it and the
text after it. -/
def closingParen (s : Scan) : List Char → Option (List Char × List Char)
  | [] => none
  | c :: cs =>
    if s.atTop && c == ')' then some ([], cs)
    else (closingParen (s.step c) cs).map fun r => (c :: r.1, r.2)

/-- Puts a character in front of the first piece. -/
def extendHead (c : Char) : List (List Char) → List (List Char)
  | [] => [[c]]
  | p :: ps => (c :: p) :: ps

/-- Cuts a text at every comma met at the top level. -/
def pieces (s : Scan) : List Char → List (List Char)
  | [] => [[]]
  | c :: cs =>
    if s.atTop && c == ',' then [] :: pieces (s.step c) cs
    else extendHead c (pieces (s.step c) cs)

/-- What follows the closing parenthesis is shorter than the whole. -/
theorem length_of_closingParen {s : Scan} {cs body rest : List Char}
    (h : closingParen s cs = some (body, rest)) : rest.length < cs.length := by
  induction cs generalizing s body with
  | nil => simp [closingParen] at h
  | cons c cs ih =>
    rw [closingParen] at h
    split at h
    · simp only [Option.some.injEq, Prod.mk.injEq] at h
      simp [h.2]
    · obtain ⟨⟨b, r⟩, hr, he⟩ := Option.map_eq_some_iff.1 h
      simp only [Prod.mk.injEq] at he
      have := ih (he.2 ▸ hr)
      simp only [List.length_cons]
      omega

end SchemaAtlas.Dump
