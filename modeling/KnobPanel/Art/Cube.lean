import KnobPanel.Art.Segment

/-!
# Spinning cube

A wireframe cube turned about three axes, in single precision and in a fixed order of
operations. Sine and cosine are those of a library, fast approximations in the program.
-/

namespace KnobPanel

structure Trigonometry where
  sin : Float32 → Float32
  cos : Float32 → Float32

namespace Trig

def pi : Float32 := .ofBits 0x40490FDB

def inversePi : Float32 := .ofBits 0x3EA2F983

/-- Cut to a whole number towards zero, stopping at the ends of a signed word with so
many values. -/
def truncate (size : Nat) (x : Float32) : Int :=
  if x < 0 then
    -(min (-x).toUInt32.toNat (size / 2) : Nat)
  else
    (min x.toUInt32.toNat (size / 2 - 1) : Nat)

def floor (x : Float32) : Float32 :=
  let whole := Float32.ofInt (truncate Int32.size x)
  if x < whole then whole - 1 else whole

/-- A parabola through the zeros, corrected once. -/
def cos (x : Float32) : Float32 :=
  let x := x * (inversePi / 2)
  let x := x - (0.25 + floor (x + 0.25))
  let x := x * (16 * (x.abs - 0.5))
  x + 0.225 * x * (x.abs - 1)

def sin (x : Float32) : Float32 := cos (x - pi / 2)

def radians (degrees : Nat) : Float32 := degrees.toFloat32 * pi / 180

end Trig

def Trigonometry.fast : Trigonometry where
  sin := Trig.sin
  cos := Trig.cos

/-- Degrees about the three axes. -/
structure Angles where
  x : Nat
  y : Nat
  z : Nat
  deriving DecidableEq

structure CubeSpin where
  angles : Angles
  deriving DecidableEq

namespace CubeSpin

def start : CubeSpin := ⟨50, 18, 77⟩

def turn (angle speed : Nat) : Nat := if 359 < angle + speed then 0 else angle + speed

def advance (cube : CubeSpin) : CubeSpin :=
  ⟨turn cube.angles.x 4, turn cube.angles.y 3, turn cube.angles.z 1⟩

/-- Half the length of an edge. -/
def size : Float32 := 10

/-- The corners, as signs on the three axes. -/
def corners : List (Float32 × Float32 × Float32) :=
  [(-1, -1, -1), (-1, -1, 1), (-1, 1, -1), (-1, 1, 1),
    (1, -1, -1), (1, -1, 1), (1, 1, -1), (1, 1, 1)]

def edges : List (Nat × Nat) :=
  [(0, 1), (1, 3), (3, 2), (2, 0), (4, 5), (5, 7), (7, 6), (6, 4), (0, 4), (1, 5), (2, 6), (3, 7)]

/-- A corner turned about the second, first and third axis, seen from the
front and cut to whole pixels. -/
def project (trig : Trigonometry) (angles : Angles) (corner : Float32 × Float32 × Float32) :
    Point :=
  let sinX := trig.sin (Trig.radians angles.x)
  let cosX := trig.cos (Trig.radians angles.x)
  let sinY := trig.sin (Trig.radians angles.y)
  let cosY := trig.cos (Trig.radians angles.y)
  let sinZ := trig.sin (Trig.radians angles.z)
  let cosZ := trig.cos (Trig.radians angles.z)
  let x := corner.1 * size
  let y := corner.2.1 * size
  let z := corner.2.2 * size
  let turnedZ := z * cosY - x * sinY
  let turnedX := z * sinY + x * cosY
  let turnedY := y * cosX - turnedZ * sinX
  { x := 96 + Trig.truncate Int16.size (turnedX * cosZ - turnedY * sinZ)
    y := 32 + Trig.truncate Int16.size (turnedX * sinZ + turnedY * cosZ) }

def drawEdges (trig : Trigonometry) (angles : Angles) : List DrawOp :=
  let points := corners.map (project trig angles)
  edges.flatMap fun (a, b) => Segment.draw ⟨points.getD a ⟨0, 0⟩, points.getD b ⟨0, 0⟩⟩

/-- The first frame only resets the angles; drawing starts with the next. -/
def draw (first : Bool) (cube : CubeSpin) (trig : Trigonometry := .fast) :
    List DrawOp × CubeSpin :=
  if first then
    ([], start)
  else
    let cube := cube.advance
    (.cursor 80 2 :: .wipe 33 5 :: drawEdges trig cube.angles, cube)

end CubeSpin

end KnobPanel
