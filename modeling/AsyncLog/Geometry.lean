import AsyncLog.Config.Basic
import AsyncLog.Decimal.Shortest
/-!
# Points on the game map

Points of the plane and of space with single-precision coordinates, and cells
of a grid.  Every operation rounds to single precision, in the order in which
it is written here.
-/

namespace AsyncLog

structure Point2 where
  x : Float32 := 0
  y : Float32 := 0
  deriving BEq, Inhabited

structure Point3 where
  x : Float32 := 0
  y : Float32 := 0
  z : Float32 := 0
  deriving BEq, Inhabited

structure Cell where
  column : Int32 := 0
  row : Int32 := 0
  deriving DecidableEq, Inhabited

namespace Point2

def map (f : Float32 -> Float32) (p : Point2) : Point2 := ⟨f p.x, f p.y⟩

def zipWith (f : Float32 -> Float32 -> Float32) (p q : Point2) : Point2 := ⟨f p.x q.x, f p.y q.y⟩

instance : Add Point2 := ⟨zipWith (· + ·)⟩

instance : Sub Point2 := ⟨zipWith (· - ·)⟩

instance : HMul Point2 Float32 Point2 := ⟨fun p k => p.map (· * k)⟩

instance : HMul Float32 Point2 Point2 := ⟨fun k p => p * k⟩

instance : HDiv Point2 Float32 Point2 := ⟨fun p k => p.map (· / k)⟩

def dot (p q : Point2) : Float32 := p.x * q.x + p.y * q.y

def distanceSquared (p q : Point2) : Float32 := (p - q).dot (p - q)

def distance (p q : Point2) : Float32 := (p.distanceSquared q).sqrt

/-- The vector scaled to length one; the zero vector has no direction and gives
coordinates that are no numbers. -/
def normalized (p : Point2) : Point2 := p / (p.dot p).sqrt

def toPoint3 (p : Point2) : Point3 := ⟨p.x, p.y, 0⟩

end Point2

namespace Point3

def map (f : Float32 -> Float32) (p : Point3) : Point3 := ⟨f p.x, f p.y, f p.z⟩

def zipWith (f : Float32 -> Float32 -> Float32) (p q : Point3) : Point3 :=
  ⟨f p.x q.x, f p.y q.y, f p.z q.z⟩

instance : Add Point3 := ⟨zipWith (· + ·)⟩

instance : Sub Point3 := ⟨zipWith (· - ·)⟩

instance : HMul Point3 Float32 Point3 := ⟨fun p k => p.map (· * k)⟩

instance : HMul Float32 Point3 Point3 := ⟨fun k p => p * k⟩

instance : HDiv Point3 Float32 Point3 := ⟨fun p k => p.map (· / k)⟩

def dot (p q : Point3) : Float32 := p.x * q.x + p.y * q.y + p.z * q.z

def distanceSquared (p q : Point3) : Float32 := (p - q).dot (p - q)

def distance (p q : Point3) : Float32 := (p.distanceSquared q).sqrt

def normalized (p : Point3) : Point3 := p / (p.dot p).sqrt

def toPoint2 (p : Point3) : Point2 := ⟨p.x, p.y⟩

end Point3

def Cell.toPoint2 (c : Cell) : Point2 := ⟨c.column.toFloat32, c.row.toFloat32⟩

/-!
## Text

Coordinates have the shortest decimals.  They are written without an exponent
from a ten-thousandth to below ten thousand million million.
-/

def coordinateLayout : Decimal.Layout where
  leastPositional := -4
  leastScientific := 16

def coordinateText (bits : UInt32) : String :=
  let negative := bits ≥ 0x80000000
  let biased := ((bits >>> 23) &&& 0xFF).toNat
  let fraction := (bits &&& 0x7FFFFF).toNat
  if biased = 255 ∧ fraction ≠ 0 then "NaN"
  else
    let magnitude :=
      if biased = 255 then "inf".toList
      else if biased = 0 ∧ fraction = 0 then "0.0".toList
      else coordinateLayout.write (Decimal.Interval.ofBinary32 biased fraction).shortest
    String.ofList (if negative then '-' :: magnitude else magnitude)

def Point2.text (p : Point2) : String :=
  recordText "Point2D" [("x", coordinateText p.x.toBits), ("y", coordinateText p.y.toBits)]

def Point3.text (p : Point3) : String :=
  recordText "Point3D" [("x", coordinateText p.x.toBits), ("y", coordinateText p.y.toBits),
    ("z", coordinateText p.z.toBits)]

def Cell.text (c : Cell) : String :=
  recordText "Point2DI" [("x", toString c.column.toInt), ("y", toString c.row.toInt)]

end AsyncLog
