import KnobPanel.Display.DrawOp
import KnobPanel.Input.Matrix

/-!
# Bongo cat

A cat that slaps with the paw on the side of the pressed key. Paws overlay the
idle cat, so the way from one slap to another leads over the idle picture.
-/

namespace KnobPanel

inductive Pose where
  | up
  | left
  | right
  | both
  deriving DecidableEq

namespace Pose

def ofKey (key : Key) : Pose :=
  if key.row = 4 then both else if key.col < 7 then left else right

/-- Pixels, pages and image of the paw, relative to the cat. -/
def paw? : Pose → Option (UInt8 × UInt8 × Image)
  | up => none
  | left => some (4, 0, .bongoLeft)
  | right => some (25, 1, .bongoRight)
  | both => some (14, 1, .bongoBoth)

end Pose

/-- `shown` is absent until the first frame. -/
structure BongoCat where
  shown : Option Pose := none
  deriving DecidableEq

namespace BongoCat

def left : UInt8 := 64

def page : UInt8 := 2

def drawIdle : List DrawOp := [.cursor left page, .image .bongoUp]

def drawPaw (pose : Pose) : List DrawOp :=
  match pose.paw? with
  | none => []
  | some (dx, dpage, image) => [.cursor (left + dx) (page + dpage), .image image]

def strike (pose : Pose) (cat : BongoCat) : List DrawOp × BongoCat :=
  if cat.shown = some pose then
    ([], cat)
  else
    let idle := if pose = .up ∨ cat.shown ≠ some .up then drawIdle else []
    (idle ++ drawPaw pose, { shown := some pose })

def draw (first : Bool) (cat : BongoCat) : List DrawOp × BongoCat :=
  if first then strike .up {} else ([], cat)

def onKey (event : KeyEvent) (cat : BongoCat) : List DrawOp × BongoCat :=
  cat.strike (if event.pressed then .ofKey event.key else .up)

end BongoCat

end KnobPanel
