import KnobPanel.Display.DrawOp

/-!
# Line segments

Straight lines by an error accumulator: every step moves along the longer axis,
and along the shorter one when the error asks for it.
-/

namespace KnobPanel

structure Point where
  x : Int
  y : Int
  deriving DecidableEq

structure Segment where
  start : Point
  stop : Point
  deriving DecidableEq

namespace Segment

def width (segment : Segment) : Nat := (segment.stop.x - segment.start.x).natAbs

def height (segment : Segment) : Nat := (segment.stop.y - segment.start.y).natAbs

def direction (start stop : Int) : Int := if start < stop then 1 else -1

/-- The pixel after `point`, and the error there. Twice the error, held against
the extents, tells whether the step goes across, down, or both ways. -/
def next (segment : Segment) (point : Point) (error : Int) : Point × Int :=
  let across := -(segment.height : Int) ≤ 2 * error
  let down := 2 * error ≤ (segment.width : Int)
  ({ x := if across then point.x + direction segment.start.x segment.stop.x else point.x
     y := if down then point.y + direction segment.start.y segment.stop.y else point.y },
    error - (if across then (segment.height : Int) else 0) +
      if down then (segment.width : Int) else 0)

def walk (segment : Segment) : Nat → Point → Int → List Point
  | 0, point, _ => [point]
  | steps + 1, point, error =>
    if point = segment.stop then
      [point]
    else
      let after := segment.next point error
      point :: segment.walk steps after.1 after.2

/-- The pixels of a segment, both ends included. A walk of as many steps as the
longer axis has reaches the end. -/
def points (segment : Segment) : List Point :=
  segment.walk (max segment.width segment.height) segment.start
    ((segment.width : Int) - segment.height)

def draw (segment : Segment) : List DrawOp :=
  segment.points.map fun point => .pixel point.x point.y true

end Segment

end KnobPanel
