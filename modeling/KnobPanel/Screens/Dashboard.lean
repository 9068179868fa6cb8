import KnobPanel.Art.BongoCat
import KnobPanel.Art.Cube
import KnobPanel.Art.Stars
import KnobPanel.Board
import KnobPanel.Display.Font
import KnobPanel.Screens.Route

/-!
# Dashboard

Lock lights on page 0, the typing rate on page 3, the key count on page 4, the
climate on page 6, the firmware's name on page 7, and the artwork at the right.
-/

namespace KnobPanel

inductive ArtState where
  | logo
  | bongo (cat : BongoCat)
  | cube (cube : CubeSpin)
  | space (field : StarField)

namespace ArtState

def ofArt (art : HomeArt) (seed : UInt32) : ArtState :=
  match art with
  | .logo => logo
  | .bongoCat => bongo {}
  | .cube => cube .start
  | .space => space (.ofSeed seed)

def draw (trig : Trigonometry) (first : Bool) : ArtState → List DrawOp × ArtState
  | logo => ([], logo)
  | bongo cat =>
    let drawn := cat.draw first
    (drawn.1, bongo drawn.2)
  | cube spin =>
    let drawn := spin.draw first trig
    (drawn.1, cube drawn.2)
  | space field =>
    let drawn := field.draw first
    (drawn.1, space drawn.2)

def hasLogo : ArtState → Bool
  | logo | space _ => true
  | bongo _ | cube _ => false

end ArtState

structure Dashboard where
  /-- Draws since the first frame, in a cycle. -/
  sensorFrame : Nat := 0
  climate : Option Climate := none
  shownLeds : Option LockLeds := none
  art : ArtState

namespace Dashboard

def firmwareLabel : String := "keypanel v0.1.0"

/-- A measurement is fetched, shown and followed by the next one on these
frames. -/
def fetchFrame : Nat := Clock.frames 2500

def showFrame : Nat := Clock.frames 5000

def lastFrame : Nat := Clock.frames 55000

def ofArt (art : HomeArt) (seed : UInt32) : Dashboard where
  art := .ofArt art seed

def drawLeds (leds : LockLeds) : List DrawOp :=
  .cursor 0 0 :: (if leds.caps then [.text " CAPS " true] else []) ++ [.text " " false] ++
    (if leds.num then [.text " NUM " true] else []) ++ [.advance true]

def drawCounters (counter : KeyRate) : List DrawOp :=
  [.cursor 0 3, .text (toString counter.rate ++ " KPM   ") false,
    .cursor 0 4, .text (toString counter.total.toNat ++ " keys   ") false]

def tenths (value : Int) : String :=
  (if value < 0 then "-" else "") ++ toString (value.natAbs / 10) ++ "." ++
    toString (value.natAbs % 10)

def drawClimate (climate : Climate) : List DrawOp :=
  [.cursor 0 6, .text (tenths climate.temperature) false, .glyph Font.degree false,
    .text ("C " ++ toString (climate.humidity / 10) ++ "% ") false]

def pollSensor (dashboard : Dashboard) (board : Board) : Dashboard × Board :=
  let frame := dashboard.sensorFrame
  let sensorFrame := if lastFrame ≤ frame then 0 else frame + 1
  if frame = 0 then
    ({ dashboard with sensorFrame }, { board with sensor := board.sensor.trigger.2 })
  else if frame = fetchFrame then
    let fetched := board.sensor.read
    ({ dashboard with sensorFrame, climate := fetched.1.toOption },
      { board with sensor := fetched.2 })
  else if frame = showFrame && board.displayOn then
    ({ dashboard with sensorFrame }, board.draw ((dashboard.climate.map drawClimate).getD []))
  else
    ({ dashboard with sensorFrame }, board)

def drawFirst (dashboard : Dashboard) : List DrawOp :=
  [.clear, .cursor 0 7, .text firmwareLabel false] ++
    if dashboard.art.hasLogo then [.cursor 80 2, .image .logo] else []

/-- One frame. The first one builds the screen and starts the sensor's cycle
anew. -/
def draw (dashboard : Dashboard) (board : Board) : Dashboard × Board :=
  let first := board.firstFrame
  let art := dashboard.art.draw board.trig first
  if first then
    ({ dashboard with sensorFrame := 0, shownLeds := none, art := art.2 },
      board.draw (dashboard.drawFirst ++ art.1))
  else
    let leds := board.lockLeds
    let drawn := if dashboard.shownLeds = some leds then [] else drawLeds leds
    let polled :=
      { dashboard with shownLeds := some leds, art := art.2 }.pollSensor
        (board.draw (drawn ++ drawCounters board.keyRate))
    (polled.1, polled.2.draw art.1)

def onRotate (clockwise : Bool) (board : Board) : Reaction × Board :=
  if board.fnHeld then
    let settings := board.settings
    (.go .dashboard,
      { board with settings := { settings with homeArt := settings.homeArt.cycle clockwise } })
  else
    (.pass, board)

def onKey (event : KeyEvent) (dashboard : Dashboard) (board : Board) :
    Reaction × Dashboard × Board :=
  let board := if event.key = .function then { board with fnHeld := event.pressed } else board
  match dashboard.art with
  | .bongo cat =>
    let shown := cat.onKey event
    (.pass, { dashboard with art := .bongo shown.2 }, board.draw shown.1)
  | _ => (.pass, dashboard, board)

end Dashboard

end KnobPanel
