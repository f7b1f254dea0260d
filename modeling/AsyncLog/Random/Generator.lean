import AsyncLog.Geometry
import AsyncLog.Random.Stream
/-!
# Random values

A generator hands out the words of a stream one after the other.  Values are
made from words by rules that may refuse a word; then the next one is tried.
After a whole period of the stream every word has had its turn, so a rule that
refused them all would refuse for ever.
-/

namespace AsyncLog.Random

/-- A generator owned by its caller: a stream and the place in it. -/
structure Generator where
  key : Key
  position : Nat
  deriving DecidableEq, Repr

namespace Generator

def ofSeed (seed : UInt64) : Generator where
  key := .ofSeed seed
  position := 0

def next (g : Generator) : UInt32 × Generator :=
  (g.key.word g.position, { g with position := g.position + 1 })

def drawWithin (rule : UInt32 -> Option α) (g : Generator) : Nat -> Option (α × Generator)
  | 0 => none
  | tries + 1 =>
      match rule g.next.1 with
      | some a => some (a, g.next.2)
      | none => drawWithin rule g.next.2 tries

/-- The first value that a rule makes of a word; none only if the rule refuses
every word of the stream. -/
def draw (g : Generator) (rule : UInt32 -> Option α) : Option (α × Generator) :=
  g.drawWithin rule Key.period

end Generator

/-!
## Fractions
-/

def unitFraction (w : UInt32) : Float32 :=
  Float32.ofBits ((w >>> 9) ||| 0x3F800000) - 1

/-- A number from `low` to below `high`; a word is refused if rounding takes it
up to `high`. -/
def between (low high : Float32) (w : UInt32) : Option Float32 :=
  let value := unitFraction w * (high - low) + low
  if value < high then some value else none

/-!
## Integers

A word is multiplied with the number of possible values.  The upper half of the
product chooses the value; the lower half tells whether the word belongs to the
part of all words that is shared out evenly.
-/

/-- The number of integers from `min` to `max`, or zero if that is the number of
all words. -/
def valueCount (min max : Int32) : UInt32 :=
  max.toUInt32 - min.toUInt32 + 1

def leadingZeros (w : UInt32) : UInt32 :=
  31 - w.log2

/-- The greatest lower half that is accepted. -/
def zone (count : UInt32) : UInt32 :=
  (count <<< leadingZeros count) - 1

/-- An integer from `min` to `max`, both included. -/
def integerOf (min max : Int32) (w : UInt32) : Option Int32 :=
  let count := valueCount min max
  if count = 0 then some w.toInt32
  else
    let product := w.toUInt64 * count.toUInt64
    let upper := (product >>> 32).toUInt32
    let lower := product.toUInt32
    if lower ≤ zone count then some (min.toUInt32 + upper).toInt32 else none

inductive RangeError where
  | empty
  deriving DecidableEq, Repr

def RangeError.message : RangeError -> String
  | .empty => "cannot sample empty range"

namespace Generator

def signedFraction (g : Generator) : Option (Float32 × Generator) :=
  g.draw (between (-1) 1)

def fraction (g : Generator) : Option (Float32 × Generator) :=
  g.draw (between 0 1)

/-- An integer of a range; an empty range is refused before a word is used. -/
def integerBetween (g : Generator) (min max : Int32) :
    Except RangeError (Option (Int32 × Generator)) :=
  if max < min then .error .empty else .ok (g.draw (integerOf min max))

def pointBetween (g : Generator) (min max : Point2) : Option (Point2 × Generator) := do
  let (u, g) ← g.fraction
  let (v, g) ← g.fraction
  return (⟨min.x + (max.x - min.x) * u, min.y + (max.y - min.y) * v⟩, g)

end Generator

end AsyncLog.Random
