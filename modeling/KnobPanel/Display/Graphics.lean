import KnobPanel.Display.DrawOp

/-!
# Drawing library

The panel leaves the drawing of shapes and texts to a library. Which pixels a shape is
made of is up to the library: the panel asks for marks and puts what it gets into its
frame.
-/

namespace KnobPanel

/-- Rectangles and discs are filled, the others are outlines of one pixel. A shape starts
at its top left corner; a line and a triangle start at their first point, from which the
other points are measured. -/
inductive Shape where
  | rectangle (width height : Nat)
  | line (dx dy : Int)
  | disc (diameter : Nat)
  | ring (diameter : Nat)
  | roundedFrame (width height radius : Nat)
  | triangle (dx dy dx' dy' : Int)
  deriving DecidableEq

structure Graphics where
  points : Shape → List (Int × Int)
  font : UInt8 → Nat → Nat → Bool
  /-- The pixels of a text from its top left corner on, with their ink. -/
  text : List UInt8 → List (Int × Int × Bool)

def fontWidth : Nat := 5

/-- What the library is asked to draw, relative to the cursor. -/
inductive Mark where
  | shape (dx dy : Int) (shape : Shape) (value : Bool)
  | text (dx dy : Int) (codes : List UInt8) (inverted : Bool)
  deriving DecidableEq

def Graphics.pixels (x y : Int) (mark : Mark) (graphics : Graphics) : List (Int × Int × Bool) :=
  match mark with
  | .shape dx dy shape value =>
    (graphics.points shape).map fun point => (x + dx + point.1, y + dy + point.2, value)
  | .text dx dy codes inverted =>
    (graphics.text codes).map fun pixel =>
      (x + dx + pixel.1, y + dy + pixel.2.1, pixel.2.2 != inverted)

end KnobPanel
