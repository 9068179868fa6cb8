import KnobPanel.Display.Graphics

/-!
# Rasters

The drawing library of the program. A pixel belongs to a disc if its middle is nearer to
the middle of the disc than a limit; outlines are what a smaller shape leaves of a larger
one; lines take the nearest pixel in each step along their longer side.
-/

namespace KnobPanel

namespace Raster

def box (width height : Nat) : List (Int × Int) :=
  (List.range width).flatMap fun (x : Nat) => (List.range height).map fun (y : Nat) => (x, y)

/-- Distances are doubled, as the middle may lie between two pixels. Very small discs are
cut a little smaller. -/
def inDisc (diameter x y : Int) : Bool :=
  let square := diameter * diameter
  let limit := if diameter ≤ 4 then square - diameter / 2 else square
  let dx := 2 * x - (diameter - 1)
  let dy := 2 * y - (diameter - 1)
  dx * dx + dy * dy < limit

/-- A coordinate of the rounded rectangle on the disc that its four corners make up;
absent between the corners. -/
def cornerAt? (size radius x : Int) : Option Int :=
  if x < radius then some x
  else if size - radius ≤ x then some (x - (size - 2 * radius))
  else none

def inRounded (width height radius x y : Int) : Bool :=
  decide (0 ≤ x ∧ x < width ∧ 0 ≤ y ∧ y < height) &&
    match cornerAt? width radius x, cornerAt? height radius y with
    | some x, some y => inDisc (2 * radius) x y
    | _, _ => true

def nearest (a n : Int) : Int := (2 * a + n) / (2 * n)

def line (dx dy : Int) : List (Int × Int) :=
  let steps := max dx.natAbs dy.natAbs
  (List.range (steps + 1)).map fun (k : Nat) => (nearest (dx * k) steps, nearest (dy * k) steps)

def points : Shape → List (Int × Int)
  | .rectangle width height => box width height
  | .line dx dy => line dx dy
  | .disc diameter => (box diameter diameter).filter fun point => inDisc diameter point.1 point.2
  | .ring diameter =>
    (box diameter diameter).filter fun point =>
      inDisc diameter point.1 point.2 && !inDisc (diameter - 2) (point.1 - 1) (point.2 - 1)
  | .roundedFrame width height radius =>
    (box width height).filter fun point =>
      inRounded width height radius point.1 point.2 &&
        !inRounded (width - 2) (height - 2) (radius - 1) (point.1 - 1) (point.2 - 1)
  | .triangle dx dy dx' dy' =>
    line dx dy ++ (line (dx' - dx) (dy' - dy)).map (fun point => (dx + point.1, dy + point.2)) ++
      line dx' dy'

/-- The printable characters from the blank on, with five columns each. The leftmost
column is the highest byte; bit 0 of a column is its top pixel. -/
def printable : List Nat :=
  [
    0x0000000000, 0x00005e0000, 0x000e000e00, 0x147f147f14, 0x042a7f2a10, 0x0016083400,
    0x3649364000, 0x00000e0000, 0x003c420000, 0x00423c0000, 0x5438385400, 0x10107c1010,
    0x0080602000, 0x1010101000, 0x0040e04000, 0x6010080600, 0x003c423c00, 0x00447e4000,
    0x6452524c00, 0x224a4e3200, 0x18147e1000, 0x2e4a4a3200, 0x3c4a4a3000, 0x02621a0600,
    0x344a4a3400, 0x0c52523c00, 0x006c6c0000, 0x00806c2c00, 0x0018244200, 0x2828282800,
    0x0042241800, 0x0004520c00, 0x3c4299a51e, 0x7c12127c00, 0x7e4a4a3400, 0x3c42422400,
    0x7e42423c00, 0x7e4a4a4200, 0x7e0a0a0200, 0x3c42523400, 0x7e08087e00, 0x00427e4200,
    0x20423e0200, 0x7e08344200, 0x7e40404000, 0x7e0c0c7e00, 0x7e0c387e00, 0x3c42423c00,
    0x7e12120c00, 0x3c5262bc00, 0x7e12126c00, 0x244a522400, 0x00027e0200, 0x3e40403e00,
    0x1e60601e00, 0x7e30307e00, 0x6618186600, 0x0608700806, 0x62524a4600, 0x007e424200,
    0x0608106000, 0x0042427e00, 0x0004020400, 0x8080808000, 0x0002040000, 0x3048487800,
    0x7e48483000, 0x0030484800, 0x3048487e00, 0x3068581000, 0x107c120400, 0x10a8a87000,
    0x7e08087000, 0x00487a4000, 0x0040807a00, 0x7e10106800, 0x00427e4000, 0x7808700870,
    0x7808087000, 0x3048483000, 0xf828281000, 0x102828f800, 0x7810081000, 0x0050582800,
    0x083e482000, 0x3840407800, 0x0038403800, 0x3840304038, 0x4830304800, 0x58a0a07800,
    0x4868584800, 0x082a554100, 0x00007e0000, 0x41552a0800, 0x0402040200]

def dot (code : UInt8) (col row : Nat) : Bool :=
  (printable.getD (code.toNat - 32) 0).testBit (8 * (fontWidth - 1 - col) + row)

def text (codes : List UInt8) : List (Int × Int × Bool) :=
  codes.zipIdx.flatMap fun placed =>
    (List.range fontWidth).flatMap fun (col : Nat) =>
      (List.range pageHeight).map fun (row : Nat) =>
        (((placed.2 * fontWidth + col : Nat) : Int), (row : Int), dot placed.1 col row)

end Raster

def Graphics.standard : Graphics where
  points := Raster.points
  font := Raster.dot
  text := Raster.text

end KnobPanel
