/-!
# Random numbers

The generator is the ChaCha stream cipher with twelve rounds: its words, in order, are
the random words. A 64-bit seed is stretched to the 256-bit key by a second, small
generator. Equal seeds therefore give equal sequences. Without a seed, the system offers
the key; nothing is known of it, so it may give any generator (`Entropy`).
-/

namespace SchemaAtlas.Random

/-- Four words, a row of the cipher's state. -/
structure Row where
  a : UInt32
  b : UInt32
  c : UInt32
  d : UInt32
deriving DecidableEq, Inhabited, Repr

namespace Row

/-- Applies `f` word by word. -/
def zipWith (f : UInt32 → UInt32 → UInt32) (x y : Row) : Row :=
  ⟨f x.a y.a, f x.b y.b, f x.c y.c, f x.d y.d⟩

/-- Rotates the bits of a word to the left, by less than 32 places. -/
def rotateWord (n : UInt32) (w : UInt32) : UInt32 := (w <<< n) ||| (w >>> (32 - n))

/-- Rotates the bits of every word. -/
def rotateBits (n : UInt32) (x : Row) : Row :=
  ⟨rotateWord n x.a, rotateWord n x.b, rotateWord n x.c, rotateWord n x.d⟩

/-- Moves every word one place to the left. -/
def shift (x : Row) : Row := ⟨x.b, x.c, x.d, x.a⟩

/-- The words in order. -/
def words (x : Row) : List UInt32 := [x.a, x.b, x.c, x.d]

end Row

/-- The cipher's state. -/
structure Block where
  p : Row
  q : Row
  r : Row
  s : Row
deriving DecidableEq, Inhabited, Repr

namespace Block

/-- The quarter round on all four columns. -/
def columns (x : Block) : Block :=
  let p := x.p.zipWith (· + ·) x.q
  let s := (x.s.zipWith (· ^^^ ·) p).rotateBits 16
  let r := x.r.zipWith (· + ·) s
  let q := (x.q.zipWith (· ^^^ ·) r).rotateBits 12
  let p := p.zipWith (· + ·) q
  let s := (s.zipWith (· ^^^ ·) p).rotateBits 8
  let r := r.zipWith (· + ·) s
  let q := (q.zipWith (· ^^^ ·) r).rotateBits 7
  ⟨p, q, r, s⟩

/-- The quarter round on all four diagonals. -/
def diagonals (x : Block) : Block :=
  let y := columns ⟨x.p, x.q.shift, x.r.shift.shift, x.s.shift.shift.shift⟩
  ⟨y.p, y.q.shift.shift.shift, y.r.shift.shift, y.s.shift⟩

/-- `n` double rounds. -/
def rounds : Nat → Block → Block
  | 0, x => x
  | n + 1, x => rounds n x.columns.diagonals

/-- Twelve rounds, added to the state they started from. -/
def scramble (x : Block) : Block :=
  let y := rounds 6 x
  ⟨y.p.zipWith (· + ·) x.p, y.q.zipWith (· + ·) x.q, y.r.zipWith (· + ·) x.r,
    y.s.zipWith (· + ·) x.s⟩

/-- The words in order. -/
def words (x : Block) : List UInt32 := x.p.words ++ x.q.words ++ x.r.words ++ x.s.words

end Block

/-- A position in the sequence of random words of some key. -/
structure Generator where
  keyLow : Row
  keyHigh : Row
  /-- The number of the next block. -/
  counter : UInt64
  /-- Words of the current block that were not drawn yet. -/
  ready : List UInt32
deriving DecidableEq, Inhabited, Repr

namespace Generator

/-- The next word of a seed, and the next seed. -/
def seedWord (s : UInt64) : UInt32 × UInt64 :=
  let s := s * 6364136223846793005 + 11634580027462260723
  let x := (((s >>> 18) ^^^ s) >>> 27).toUInt32
  let n := (s >>> 59).toUInt32
  let w := if n = 0 then x else (x >>> n) ||| (x <<< (32 - n))
  (w, s)

/-- The next four words of a seed, and the next seed. -/
def seedRow (s : UInt64) : Row × UInt64 :=
  let (a, s) := seedWord s
  let (b, s) := seedWord s
  let (c, s) := seedWord s
  let (d, s) := seedWord s
  (⟨a, b, c, d⟩, s)

/-- The generator of a seed. -/
def ofSeed (seed : UInt64) : Generator :=
  let (low, s) := seedRow seed
  let (high, _) := seedRow s
  ⟨low, high, 0, []⟩

/-- The block of a number. -/
def block (g : Generator) (n : UInt64) : Block :=
  Block.scramble ⟨⟨0x61707865, 0x3320646e, 0x79622d32, 0x6b206574⟩, g.keyLow, g.keyHigh,
    ⟨n.toUInt32, (n >>> 32).toUInt32, 0, 0⟩⟩

/-- Draws a word. -/
def word (g : Generator) : UInt32 × Generator :=
  match g.ready with
  | w :: ws => (w, { g with ready := ws })
  | [] =>
    match (g.block g.counter).words with
    | w :: ws => (w, { g with counter := g.counter + 1, ready := ws })
    | [] => (0, g)

/-- Draws a number from 0 up to below 1, a multiple of 2^-24. -/
def unit (g : Generator) : Float32 × Generator :=
  let (w, g) := g.word
  ((w >>> 8).toFloat32 * 5.9604644775390625e-8, g)

end Generator

/-- What the system has to offer where no seed is given: one generator after the other,
each of any kind. -/
structure Entropy where
  generators : Nat → Generator
  /-- How many of them were taken. -/
  taken : Nat := 0

namespace Entropy

/-- Takes the next generator. -/
def next (e : Entropy) : Generator × Entropy := (e.generators e.taken, { e with taken := e.taken + 1 })

/-- The generators of a seed and of those after it, for runs that can be repeated. -/
def ofSeed (seed : UInt64) : Entropy := { generators := fun n => .ofSeed (seed + .ofNat n) }

end Entropy

end SchemaAtlas.Random
