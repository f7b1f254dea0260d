/-!
# A stream of random words

The ChaCha stream cipher with twelve rounds turns a key and a block number into
sixteen 32-bit words.  The words of the blocks from number zero on, in order,
are the stream of the key.
-/

namespace AsyncLog.Random

structure Row where
  w0 : UInt32
  w1 : UInt32
  w2 : UInt32
  w3 : UInt32
  deriving DecidableEq, Repr, Inhabited

namespace Row

def map (f : UInt32 -> UInt32) (r : Row) : Row := ⟨f r.w0, f r.w1, f r.w2, f r.w3⟩

def zipWith (f : UInt32 -> UInt32 -> UInt32) (r s : Row) : Row :=
  ⟨f r.w0 s.w0, f r.w1 s.w1, f r.w2 s.w2, f r.w3 s.w3⟩

def shift (r : Row) : Row := ⟨r.w1, r.w2, r.w3, r.w0⟩

def words (r : Row) : List UInt32 := [r.w0, r.w1, r.w2, r.w3]

end Row

def rotateLeft (w : UInt32) (bits : UInt32) : UInt32 :=
  (w <<< bits) ||| (w >>> (32 - bits))

structure Block where
  a : Row
  b : Row
  c : Row
  d : Row
  deriving DecidableEq, Repr, Inhabited

namespace Block

def columnRound (s : Block) : Block :=
  let a := s.a.zipWith (· + ·) s.b
  let d := (s.d.zipWith (· ^^^ ·) a).map (rotateLeft · 16)
  let c := s.c.zipWith (· + ·) d
  let b := (s.b.zipWith (· ^^^ ·) c).map (rotateLeft · 12)
  let a := a.zipWith (· + ·) b
  let d := (d.zipWith (· ^^^ ·) a).map (rotateLeft · 8)
  let c := c.zipWith (· + ·) d
  let b := (b.zipWith (· ^^^ ·) c).map (rotateLeft · 7)
  ⟨a, b, c, d⟩

def slant (s : Block) : Block :=
  ⟨s.a, s.b.shift, s.c.shift.shift, s.d.shift.shift.shift⟩

def straighten (s : Block) : Block :=
  ⟨s.a, s.b.shift.shift.shift, s.c.shift.shift, s.d.shift⟩

def doubleRound (s : Block) : Block :=
  s.columnRound.slant.columnRound.straighten

def add (s t : Block) : Block :=
  ⟨s.a.zipWith (· + ·) t.a, s.b.zipWith (· + ·) t.b, s.c.zipWith (· + ·) t.c,
    s.d.zipWith (· + ·) t.d⟩

def words (s : Block) : List UInt32 :=
  s.a.words ++ s.b.words ++ s.c.words ++ s.d.words

end Block

structure Key where
  first : Row
  second : Row
  deriving DecidableEq, Repr, Inhabited

namespace Key

/-- The block of a number before the rounds: four constant words, the key, the
number and an unused stream number. -/
def input (k : Key) (number : UInt64) : Block where
  a := ⟨0x61707865, 0x3320646E, 0x79622D32, 0x6B206574⟩
  b := k.first
  c := k.second
  d := ⟨number.toUInt32, (number >>> 32).toUInt32, 0, 0⟩

/-- Twelve rounds, and the block before them added to the result. -/
def block (k : Key) (number : UInt64) : Block :=
  let input := k.input number
  ((List.range 6).foldl (fun s _ => s.doubleRound) input).add input

def word (k : Key) (index : Nat) : UInt32 :=
  (k.block (UInt64.ofNat (index / 16))).words.getD (index % 16) 0

def period : Nat := UInt64.size * 16

/-!
## Keys from seeds

A 64-bit state runs through a linear recurrence; each state is folded into one
word of the key.
-/

def advanceSeed (state : UInt64) : UInt64 :=
  state * 6364136223846793005 + 11634580027462260723

/-- The word of a state: its upper half mixed with itself, turned by its upper bits. -/
def seedWord (state : UInt64) : UInt32 :=
  let mixed := (((state >>> 18) ^^^ state) >>> 27).toUInt32
  let turn := (state >>> 59).toUInt32
  (mixed >>> turn) ||| (mixed <<< ((32 - turn) % 32))

def rowOfSeed (state : UInt64) : Row × UInt64 :=
  let s1 := advanceSeed state
  let s2 := advanceSeed s1
  let s3 := advanceSeed s2
  let s4 := advanceSeed s3
  (⟨seedWord s1, seedWord s2, seedWord s3, seedWord s4⟩, s4)

def ofSeed (seed : UInt64) : Key :=
  let (first, state) := rowOfSeed seed
  ⟨first, (rowOfSeed state).1⟩

end Key

end AsyncLog.Random
