import KnobPanel.Display.Font
import KnobPanel.Display.Image
import KnobPanel.Display.PanelDriver
import KnobPanel.Display.Raster

/-!
# Pixel panel

The panel draws into a frame of its own; its controller shows what the last
flush handed over. Brightness, inversion and power go to the controller at
once. A request that the bus loses is not made again.
-/

namespace KnobPanel

structure Panel where
  graphics : Graphics := .standard
  driver : PanelDriver := .prompt
  frame : Frame := .dark
  x : Nat := 0
  page : Page := .first
  brightness : UInt8 := 255
  inverted : Bool := false
  on : Bool := true
  controller : PanelController := {}
  /-- What was asked of the controller and whether it got through, newest first. -/
  asked : List (PanelRequest × Bool) := []

namespace Panel

def ask (request : PanelRequest) (panel : Panel) : Panel :=
  let answer := panel.driver.ask panel.asked request panel.controller
  { panel with controller := answer.2, asked := (request, answer.1) :: panel.asked }

def new (graphics : Graphics) (driver : PanelDriver) (powered : PanelController) : Panel :=
  (({ graphics, driver, controller := powered } : Panel).ask .start).ask (.flush .dark)

def top (panel : Panel) : Nat := panel.page.val * pageHeight

def draw (marks : List Mark) (panel : Panel) : Panel :=
  { panel with
    frame := panel.frame.paint <|
      marks.flatMap fun mark => panel.graphics.pixels panel.x panel.top mark }

def fill (width height : Nat) (value : Bool) (panel : Panel) : Panel :=
  panel.draw [.shape 0 0 (.rectangle width height) value]

def advance (wipe : Bool) (panel : Panel) : Panel :=
  { panel with
    frame :=
      if wipe ∧ panel.x < screenWidth then
        (panel.fill (screenWidth - panel.x) pageHeight false).frame
      else
        panel.frame
    x := 0
    page := panel.page.next }

def put (code : UInt8) (inverted : Bool) (panel : Panel) : Panel :=
  let panel := if screenWidth - cellWidth < panel.x then panel.advance false else panel
  { panel.draw (Font.marks code inverted) with x := panel.x + cellWidth }

def type (inverted : Bool) (code : UInt8) (panel : Panel) : Panel :=
  if code = newline then panel.advance true else panel.put code inverted

def typeAll (text : List UInt8) (inverted : Bool) (panel : Panel) : Panel :=
  text.foldl (fun panel code => panel.type inverted code) panel

/-- The precharge that goes with every brightness: two clocks of the second
phase in the high half, one of the first in the low half. -/
def precharge : UInt8 := 0x21

def apply (op : DrawOp) (panel : Panel) : Panel :=
  match op with
  | .clear => { panel with frame := .dark, x := 0, page := .first }
  | .cursor x page => { panel with x := x.toNat, page := .ofByte page }
  | .text text inverted => panel.typeAll (codes text) inverted
  | .glyph code inverted => panel.put code inverted
  | .pixel x y value => { panel with frame := panel.frame.put x y value }
  | .advance wipe => panel.advance wipe
  | .wipe width pages => panel.fill width.toNat (pages.toNat * pageHeight) false
  | .image image => panel.draw image.marks
  | .brightness level => { panel with brightness := level }.ask (.brightness precharge level)
  | .invert mode =>
    let inverted := mode.apply panel.inverted
    { panel with inverted }.ask (.inversion inverted)
  | .power on => { panel with on }.ask (.power on)
  | .flush => if panel.on then panel.ask (.flush panel.frame) else panel

def run (ops : List DrawOp) (panel : Panel) : Panel :=
  ops.foldl (fun panel op => panel.apply op) panel

end Panel

end KnobPanel
